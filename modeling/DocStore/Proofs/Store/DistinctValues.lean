import DocStore.Proofs.Aggregation.Partition
import DocStore.Proofs.Query.Answers
import DocStore.Store.Execute

/-!
# Distinct values

The distinct values of a field, and the sets that groups collect, keep the first of the occurrences
that equal each other. Equality with numbers widened is not transitive, so that there are no classes
of which a value could be the representative: what is kept of a list of occurrences is a `Cover`, and
the loop that keeps it makes one with each further occurrence (`Cover.seen`, `Cover.unseen`).
-/

namespace DocStore

namespace Aggregation

open Accumulator (distinct)

/-- Some of a list of occurrences, in their order, none of which equals another, and one of which
equals each occurrence and does not come later. -/
structure Cover (occurrences values : List Json) : Prop where
  apart : values.Pairwise fun v w => v.equals w = false ∧ w.equals v = false
  sublist : values.Sublist occurrences
  /-- The positions of the values among the occurrences. -/
  positions : ∃ kept : List Nat, kept.Pairwise (· < ·) ∧
    List.Forall₂ (fun i v => occurrences[i]? = some v) kept values ∧
    ∀ i o, occurrences[i]? = some o →
      ∃ j ∈ kept, j ≤ i ∧ ∃ v ∈ values, occurrences[j]? = some v ∧ v.equals o = true ∧ o.equals v = true

namespace Cover

theorem nil : Cover [] [] :=
  ⟨.nil, .refl [], [], .nil, .nil, fun _ _ none => nomatch none⟩

section

variable {occurrences values : List Json} {x : Json}

theorem getElem?_snoc {i : Nat} {o : Json} :
    (occurrences ++ [x])[i]? = some o ↔
      occurrences[i]? = some o ∨ i = occurrences.length ∧ x = o := by
  rcases Nat.lt_trichotomy i occurrences.length with before | rfl | after
  · rw [List.getElem?_append_left before]
    exact (or_iff_left fun last => Nat.ne_of_lt before last.1).symm
  · simp
  · rw [List.getElem?_eq_none (by simp; omega), List.getElem?_eq_none (by omega)]
    exact iff_of_false nofun fun last => last.elim nofun fun last => by omega

/-- An occurrence that equals one of the values needs no further value. -/
theorem seen (h : Cover occurrences values) (wf : ∀ o ∈ occurrences, o.WellFormed)
    (wfx : x.WellFormed) (there : values.any (·.equals x) = true) :
    Cover (occurrences ++ [x]) values := by
  obtain ⟨kept, ordered, places, covered⟩ := h.positions
  refine ⟨h.apart, h.sublist.trans (List.sublist_append_left ..), kept, ordered,
    places.imp fun i v at' => getElem?_snoc.2 (.inl at'), fun i o here => ?_⟩
  rcases getElem?_snoc.1 here with here | ⟨rfl, rfl⟩
  · obtain ⟨j, mem, le, v, hv, at', equal⟩ := covered i o here
    exact ⟨j, mem, le, v, hv, getElem?_snoc.2 (.inl at'), equal⟩
  · obtain ⟨v, hv, equal⟩ := List.any_eq_true.1 there
    obtain ⟨j, mem, at'⟩ := Fallible.exists_of_mem places hv
    have early : j < occurrences.length := (List.getElem?_eq_some_iff.1 at').1
    exact ⟨j, mem, Nat.le_of_lt early, v, hv, getElem?_snoc.2 (.inl at'), equal,
      Json.equals_symm (wf v (h.sublist.subset hv)) wfx equal⟩

/-- An occurrence that equals none of the values is one itself. -/
theorem unseen (h : Cover occurrences values) (wf : ∀ o ∈ occurrences, o.WellFormed)
    (wfx : x.WellFormed) (new : values.any (·.equals x) = false) :
    Cover (occurrences ++ [x]) (values ++ [x]) := by
  obtain ⟨kept, ordered, places, covered⟩ := h.positions
  rw [List.any_eq_false] at new
  refine ⟨?_, h.sublist.append (.refl [x]), kept ++ [occurrences.length], ?_, ?_, fun i o here => ?_⟩
  · refine List.pairwise_append.2 ⟨h.apart, List.pairwise_singleton .., fun v hv w hw => ?_⟩
    obtain rfl := List.mem_singleton.1 hw
    refine ⟨Bool.eq_false_iff.2 (new v hv), Bool.eq_false_iff.2 fun equal => new v hv ?_⟩
    exact Json.equals_symm wfx (wf v (h.sublist.subset hv)) equal
  · refine List.pairwise_append.2 ⟨ordered, List.pairwise_singleton .., fun i hi j hj => ?_⟩
    obtain rfl := List.mem_singleton.1 hj
    obtain ⟨v, -, at'⟩ := Fallible.exists_of_mem places.flip hi
    exact (List.getElem?_eq_some_iff.1 at').1
  · exact List.rel_append (places.imp fun i v at' => getElem?_snoc.2 (.inl at'))
      (.cons (getElem?_snoc.2 (.inr ⟨rfl, rfl⟩)) .nil)
  · rcases getElem?_snoc.1 here with here | ⟨rfl, rfl⟩
    · obtain ⟨j, mem, le, v, hv, at', equal⟩ := covered i o here
      exact ⟨j, List.mem_append_left _ mem, le, v, List.mem_append_left _ hv,
        getElem?_snoc.2 (.inl at'), equal⟩
    · exact ⟨_, List.mem_append_right _ (List.mem_singleton_self _), Nat.le_refl _, x,
        List.mem_append_right _ (List.mem_singleton_self _), getElem?_snoc.2 (.inr ⟨rfl, rfl⟩),
        Json.equals_refl wfx, Json.equals_refl wfx⟩

end

end Cover

theorem distinct_append_singleton (xs : List Json) (x : Json) :
    distinct (xs ++ [x]) =
      if (distinct xs).any (·.equals x) then distinct xs else distinct xs ++ [x] := by
  rw [distinct, List.foldl_append]
  rfl

/-- **Keeping what was not seen before makes a cover.** -/
theorem cover_distinct {occurrences : List Json} (wf : ∀ o ∈ occurrences, o.WellFormed) :
    Cover occurrences (distinct occurrences) := by
  induction occurrences using List.reverseRecOn with
  | nil => exact .nil
  | append_singleton occurrences x ih =>
    obtain ⟨before, here⟩ := List.forall_mem_append.1 wf
    have wfx := here x (List.mem_singleton_self x)
    rw [distinct_append_singleton]
    split
    · rename_i there
      exact (ih before).seen before wfx there
    · rename_i new
      exact (ih before).unseen before wfx (Bool.eq_false_iff.2 new)

end Aggregation

/-- A search succeeds on documents on which its filter evaluates only. -/
theorem Query.evaluates_of_select {filter : Json} {docs kept : List Json}
    (h : select filter docs = .ok kept) : Evaluates filter docs := by
  induction docs generalizing kept with
  | nil => exact fun _ mem => nomatch mem
  | cons d docs ih =>
    obtain ⟨b, here, rest⟩ := Fallible.bind_eq_ok.1 h
    obtain ⟨others, there, -⟩ := Fallible.bind_eq_ok.1 rest
    exact List.forall_mem_cons.2 ⟨⟨b, here⟩, ih there⟩

namespace Store

open Aggregation
open Query (Evaluates finds)

variable {s : Store} {collection field : String} {filter : Json}

/-- The values at a path in a document without repeated keys have none either. -/
theorem wellFormed_occurrences {doc o : Json} (wf : doc.WellFormed)
    (h : o ∈ occurrences field doc) : o.WellFormed := by
  unfold occurrences at h
  split at h
  · rename_i xs here
    exact (wf.getPath? here).items o h
  · rename_i v _ here
    obtain rfl := List.mem_singleton.1 h
    exact wf.getPath? here
  · cases h

theorem perform_distinct {values : List Json} :
    (s.perform (.distinct collection field filter)).1 = .ok (.values values) ↔
      Evaluates filter (s.documents collection) ∧ values = Accumulator.distinct
        (((s.documents collection).filter (finds filter)).flatMap (occurrences field)) := by
  simp only [perform, distinct, select]
  constructor
  · intro h
    cases found : Query.select filter (s.documents collection) with
    | error fault =>
      rw [found] at h
      cases h
    | ok docs =>
      have evaluates := Query.evaluates_of_select found
      rw [Query.select_eq_filter evaluates] at h
      cases h
      exact ⟨evaluates, rfl⟩
  · rintro ⟨evaluates, rfl⟩
    rw [Query.select_eq_filter evaluates]
    rfl

/-- **Distinct values cover the occurrences.** The distinct values of a field are a cover of the
values at its path in the documents that a filter finds, and are found whenever the filter evaluates;
the sets that groups collect are covers of the values that their operand has on the documents of the
group. -/
theorem covers :
    (∀ (s : Store) (collection field : String) (filter : Json),
      (∀ d ∈ s.documents collection, d.WellFormed) →
        ((∃ values, (s.perform (.distinct collection field filter)).1 = .ok (.values values)) ↔
          Evaluates filter (s.documents collection)) ∧
        ∀ values, (s.perform (.distinct collection field filter)).1 = .ok (.values values) →
          Cover (((s.documents collection).filter (finds filter)).flatMap (occurrences field)) values) ∧
    ∀ (fs : Fields) (docs : List Json), IsGroupSpec fs → (Json.obj fs).WellFormed →
      (∀ d ∈ docs, d.WellFormed) →
      ∃ (s : GroupSpec) (groups : List Group), group (.obj fs) docs = .ok (groups.map s.document) ∧
        Partition s.key docs groups ∧
        ∀ name operand, name ≠ "_id" → fs.get? name = some (.obj [("$addToSet", operand)]) →
          ∀ g ∈ groups, ∃ values, (s.document g).get? name = some (.arr values) ∧
            Cover (g.members.filterMap (evaluate? · operand)) values := by
  refine ⟨fun s collection field filter wf => ⟨?_, fun values returned => ?_⟩,
    fun fs docs spec expression wf => ?_⟩
  · constructor
    · rintro ⟨values, returned⟩
      exact (perform_distinct.1 returned).1
    · exact fun evaluates => ⟨_, perform_distinct.2 ⟨evaluates, rfl⟩⟩
  · obtain ⟨-, rfl⟩ := perform_distinct.1 returned
    refine cover_distinct fun o ho => ?_
    obtain ⟨d, hd, occurs⟩ := List.mem_flatMap.1 ho
    exact wellFormed_occurrences (wf d (List.mem_of_mem_filter hd)) occurs
  · obtain ⟨s, groups, grouped⟩ := exists_grouped spec expression wf
    refine ⟨s, groups, grouped.documents, grouped.partition, fun name operand other sets g hg => ?_⟩
    refine ⟨_, get?_document grouped.read other sets rfl g, ?_⟩
    rw [List.filterMap_map]
    refine cover_distinct fun o ho => ?_
    obtain ⟨d, hd, value⟩ := List.mem_filterMap.1 ho
    obtain ⟨i, at'⟩ := List.mem_iff_getElem?.1 hg
    rw [grouped.partition.members i g at'] at hd
    have operand : operand.WellFormed :=
      (expression.of_get? sets).values _ (List.mem_singleton_self _)
    exact wellFormed_evaluate? (wf d (List.mem_of_mem_filter hd)) operand value

/-- An array counts as its items for the distinct values, and as itself for a set; a document without
the field has no occurrence. -/
theorem covers_of_three :
    let docs : List Json := [.obj [("_id", .int 1), ("v", .arr [.int 1, .str "a"])],
      .obj [("_id", .int 2), ("v", .int 1)], .obj [("_id", .int 3)]]
    let s : Store := { collections := [("c", docs)] }
    let fs : Fields := [("_id", .null), ("vs", .obj [("$addToSet", .str "$v")])]
    (∃ values, (s.perform (.distinct "c" "v" (.obj []))).1 = .ok (.values values) ∧
        values.length = 2 ∧ Cover [.int 1, .str "a", .int 1] values) ∧
      ∃ (spec : GroupSpec) (groups : List Group), group (.obj fs) docs =
          .ok (groups.map spec.document) ∧
        groups.map spec.document =
          [.obj [("_id", .null), ("vs", .arr [.arr [.int 1, .str "a"], .int 1])]] ∧
        ∀ g ∈ groups, ∃ values, (spec.document g).get? "vs" = some (.arr values) ∧
          Cover (g.members.filterMap (evaluate? · (.str "$v"))) values := by
  intro docs s fs
  have wf : ∀ d ∈ docs, d.WellFormed := by
    have number (i : Int) : (Json.int i).WellFormed := .num _
    have items : (Json.arr [.int 1, .str "a"]).WellFormed := .arr (by
      simp [number, Json.WellFormed.str])
    simp only [docs, List.forall_mem_cons]
    refine ⟨.obj (by decide) ?_, .obj (by decide) ?_, .obj (by decide) ?_, by simp⟩ <;>
      simp [number, items]
  have spec : IsGroupSpec fs := by
    refine ⟨rfl, fun f hf other => ?_⟩
    simp only [fs, List.mem_cons, List.not_mem_nil, or_false] at hf
    rcases hf with rfl | rfl
    · exact absurd rfl other
    · exact ⟨_, _, rfl, rfl⟩
  have expression : (Json.obj fs).WellFormed := by
    have single : (Json.obj [("$addToSet", .str "$v")]).WellFormed :=
      .obj (List.nodup_singleton _) (by simp [Json.WellFormed.str])
    exact .obj (by decide) (by simp [fs, Json.WellFormed.null, single])
  constructor
  · have returned : (s.perform (.distinct "c" "v" (.obj []))).1 = .ok (.values [.int 1, .str "a"]) :=
      rfl
    exact ⟨_, returned, rfl, (covers.1 s "c" "v" (.obj []) wf).2 _ returned⟩
  · obtain ⟨read, groups, grouped, -, sets⟩ := covers.2 fs docs spec expression wf
    have documents : group (.obj fs) docs =
      .ok [.obj [("_id", .null), ("vs", .arr [.arr [.int 1, .str "a"], .int 1])]] := rfl
    exact ⟨read, groups, grouped, Except.ok.inj (grouped.symm.trans documents),
      sets "vs" (.str "$v") (by decide) rfl⟩

end Store

end DocStore
