import DocStore.Proofs.Aggregation.Grouping
import DocStore.Proofs.Aggregation.OnePass
import DocStore.Proofs.Json.Order
import DocStore.Proofs.Json.Places
import Mathlib

/-!
# Groups are a partition

Every document is in one group, the first whose key equals its own, and the groups stand in the order
of their first documents (`partition_ofDocuments`). The outputs of a group are those of its documents
alone (`Grouped`).
-/

namespace DocStore

/-! ## Keys -/

namespace Aggregation

section

variable {doc : Json}

theorem keys_evaluateFields (fs : Fields) :
    (Fields.keys (evaluateFields doc fs)).Sublist (Fields.keys fs) := by
  induction fs with
  | nil => exact .refl _
  | cons f fs ih =>
    rw [evaluateFields]
    split
    · exact ih.cons_cons f.1
    · exact ih.cons f.1

theorem mem_evaluateFields {fs : Fields} {f : String × Json} (h : f ∈ evaluateFields doc fs) :
    ∃ e ∈ fs, evaluate? doc e.2 = some f.2 := by
  induction fs with
  | nil => cases h
  | cons e fs ih =>
    rw [evaluateFields] at h
    split at h
    · rename_i v here
      rcases List.mem_cons.1 h with rfl | h
      · exact ⟨e, by simp, here⟩
      · obtain ⟨e', he', there⟩ := ih h
        exact ⟨e', by simp [he'], there⟩
    · obtain ⟨e', he', there⟩ := ih h
      exact ⟨e', by simp [he'], there⟩

/-- Without repeated keys in a document and an expression, there is none in the value. -/
theorem wellFormed_evaluate? (wf : doc.WellFormed) {expr v : Json} (expression : expr.WellFormed)
    (h : evaluate? doc expr = some v) : v.WellFormed := by
  induction expr using Json.inductionOn generalizing v with
  | str s =>
    rw [evaluate?] at h
    split at h
    · exact wf.getPath? h
    · cases h
      exact .str s
  | obj fs ih =>
    unfold evaluate? at h
    split at h
    · split at h
      · cases h
        exact expression.values _ (List.mem_singleton_self _)
      · cases h
        exact expression
    · cases h
      refine .obj ((keys_evaluateFields fs).nodup expression.nodup_keys) fun f hf => ?_
      obtain ⟨e, he, here⟩ := mem_evaluateFields hf
      exact ih e he (expression.values e he) here
  | _ =>
    cases h
    exact expression

theorem wellFormed_evaluate (wf : doc.WellFormed) {expr : Json} (expression : expr.WellFormed) :
    (evaluate doc expr).WellFormed := by
  rw [evaluate]
  cases h : evaluate? doc expr with
  | none => exact .null
  | some v => exact wellFormed_evaluate? wf expression h

end

/-! ## Partition -/

/-- The position of the first group whose key equals a key. -/
def home? (groups : List Group) (key : Json) : Option Nat := groups.findIdx? (·.key.equals key)

/-- Documents are partitioned by their keys. -/
structure Partition (key : Json) (docs : List Json) (groups : List Group) : Prop where
  apart : groups.Pairwise fun g h => g.key.equals h.key = false ∧ h.key.equals g.key = false
  /-- A group is opened by its first document, whose key it has; the groups stand in the order in which
  they were opened. -/
  opened : ∃ firsts, firsts.Sublist docs ∧ List.Forall₂ (fun d g =>
    g.key = evaluate d key ∧ ∃ others, g.members = d :: others) firsts groups
  housed : ∀ d ∈ docs, ∃ i, home? groups (evaluate d key) = some i
  /-- A group has the documents for which it is the first with an equal key, in their order. -/
  members : ∀ i g, groups[i]? = some g →
    g.members = docs.filter fun d => home? groups (evaluate d key) == some i

theorem home?_cons (g : Group) (groups : List Group) (key : Json) :
    home? (g :: groups) key =
      if g.key.equals key then some 0 else (home? groups key).map (· + 1) :=
  List.findIdx?_cons

theorem home?_cons_eq_zero (g : Group) (groups : List Group) (key : Json) :
    (home? (g :: groups) key == some 0) = g.key.equals key := by
  rw [home?_cons]
  cases g.key.equals key <;> cases home? groups key <;> rfl

theorem home?_cons_eq_succ (g : Group) (groups : List Group) (key : Json) (i : Nat) :
    (home? (g :: groups) key == some (i + 1)) =
      (!g.key.equals key && home? groups key == some i) := by
  rw [home?_cons]
  cases g.key.equals key <;> cases home? groups key <;> simp

/-- **Groups are a partition of the documents.** -/
theorem partition_ofDocuments (key : Json) {docs : List Json}
    (wf : ∀ d ∈ docs, (evaluate d key).WellFormed) :
    Partition key docs (Group.ofDocuments key docs) := by
  induction docs using Group.inductionOn key with
  | nil => exact ⟨.nil, ⟨[], .refl _, .nil⟩, by simp, by simp [Group.ofDocuments]⟩
  | cons d docs ih =>
    obtain ⟨wfd, wfs⟩ := List.forall_mem_cons.1 wf
    obtain ⟨apart, ⟨firsts, inOrder, opens⟩, housed, members⟩ :=
      ih fun e he => wfs e (List.mem_of_mem_filter he)
    rw [Group.ofDocuments_cons]
    generalize Group.ofDocuments key _ = groups at *
    refine ⟨List.pairwise_cons.2 ⟨fun g hg => ?_, apart⟩, ⟨d :: firsts, ?_, ?_⟩, ?_, ?_⟩
    · -- The group was opened by a document that the first group did not take.
      obtain ⟨e, he, same, -⟩ := Fallible.exists_of_mem opens hg
      obtain ⟨member, other⟩ := List.mem_filter.1 (inOrder.subset he)
      rw [← same, Bool.not_eq_true'] at other
      refine ⟨other, Bool.eq_false_iff.2 fun equal => ?_⟩
      rw [Json.equals_symm (same ▸ wfs e member) wfd equal] at other
      cases other
    · exact (inOrder.trans List.filter_sublist).cons_cons d
    · exact .cons ⟨rfl, _, rfl⟩ opens
    · intro e he
      rw [home?_cons]
      split
      · exact ⟨0, rfl⟩
      · rename_i other
        rcases List.mem_cons.1 he with rfl | he
        · exact absurd (Json.equals_refl wfd) other
        · obtain ⟨i, home⟩ := housed e (List.mem_filter.2 ⟨he, by simpa using other⟩)
          exact ⟨i + 1, by rw [home]; rfl⟩
    · intro i g hg
      cases i with
      | zero =>
        obtain rfl := Option.some.inj hg
        simp only [home?_cons_eq_zero]
        rw [List.filter_cons_of_pos (p := fun e => (evaluate d key).equals (evaluate e key))
          (Json.equals_refl wfd)]
      | succ i =>
        rw [members i g hg, List.filter_filter]
        simp only [home?_cons_eq_succ, Bool.and_comm (!_)]
        rw [List.filter_cons_of_neg (by simp [Json.equals_refl wfd])]

/-! ## Outputs -/

/-- No document is counted twice, and none is left out. -/
theorem sum_length_ofDocuments (key : Json) (docs : List Json) :
    ((Group.ofDocuments key docs).map (·.members.length)).sum = docs.length := by
  induction docs using Group.inductionOn key with
  | nil => rfl
  | cons d docs ih =>
    have split := List.length_eq_length_filter_add (l := docs)
      (fun e => (evaluate d key).equals (evaluate e key))
    rw [Group.ofDocuments_cons, List.map_cons, List.sum_cons, ih, List.length_cons, List.length_cons]
    omega

/-- Documents are one group under a key that is null for all. -/
theorem ofDocuments_null {docs : List Json} (filled : docs ≠ []) :
    Group.ofDocuments .null docs = [⟨.null, docs⟩] := by
  obtain ⟨d, docs, rfl⟩ := List.exists_cons_of_ne_nil filled
  have key (e : Json) : evaluate e .null = .null := by simp [evaluate, evaluate?]
  have equal : Json.null.equals .null = true := by simp [Json.equals]
  rw [Group.ofDocuments_cons]
  simp only [key, equal, List.filter_true, Bool.not_true, List.filter_false]
  rfl

section

variable {fs : Fields} {s : GroupSpec}

theorem groupSpec_null (read : GroupSpec.ofJson (.obj fs) = .ok s) :
    GroupSpec.ofJson (.obj (fs.insert "_id" .null)) = .ok { s with key := .null } := by
  rw [groupSpec_eq_ok] at read ⊢
  exact ⟨Fields.get?_insert_self .., by rw [Fields.filter_insert]; exact read.2⟩

/-- A computed field is found under the name that it was read with. -/
theorem get?_outputs {rest : Fields} {os : List Output} {name : String} {spec : Json}
    (outputs : List.Forall₂ (fun f o => GroupSpec.output f.1 f.2 = .ok o) rest os)
    (there : rest.get? name = some spec) (members : List Json) :
    ∃ o, GroupSpec.output name spec = .ok o ∧
      Fields.get? (os.map fun o => (o.name, o.value members)) name = some (o.value members) := by
  induction outputs with
  | nil => cases there
  | @cons f o _ _ here _ ih =>
    obtain ⟨-, -, -, named⟩ := output_eq_ok.1 here
    rw [Fields.get?_cons] at there
    rw [List.map_cons, Fields.get?_cons, named]
    split at there
    · rename_i same
      cases there
      exact ⟨o, same ▸ here, if_pos same⟩
    · rename_i other
      rw [if_neg other]
      exact ih there

/-- An output has the result of its accumulator under its name. -/
theorem get?_document (read : GroupSpec.ofJson (.obj fs) = .ok s) {name operator : String}
    {operand : Json} {a : Accumulator} (other : name ≠ "_id")
    (spec : fs.get? name = some (.obj [(operator, operand)]))
    (named : Accumulator.ofName? operator = some a) (g : Group) :
    (s.document g).get? name = some (a.result (g.members.map (evaluate? · operand))) := by
  rw [← Fields.get?_filter other] at spec
  obtain ⟨o, here, value⟩ := get?_outputs (groupSpec_eq_ok.1 read).2 spec g.members
  obtain ⟨_, single, named', -⟩ := output_eq_ok.1 here
  cases single
  change Fields.get? (("_id", g.key) :: s.outputs.map fun o => (o.name, o.value g.members)) name = _
  rw [Fields.get?_cons, if_neg other, value, Output.value]
  cases named.symm.trans named'
  rfl

end

/-- Documents were grouped as a specification says. -/
structure Grouped (fs : Fields) (docs : List Json) (s : GroupSpec) (groups : List Group) : Prop where
  read : GroupSpec.ofJson (.obj fs) = .ok s
  documents : group (.obj fs) docs = .ok (groups.map s.document)
  /-- The accumulators of all groups can be fed in one pass over the documents. -/
  fed : groups.map s.document = onePass s docs
  partition : Partition s.key docs groups
  counts : ∀ name operand, name ≠ "_id" → fs.get? name = some (.obj [("$count", operand)]) →
    ∃ counts : List Nat, groups.map (fun g => (s.document g).get? name) =
      counts.map (fun n => some (.nat n)) ∧ counts.sum = docs.length
  pushes : ∀ name operand, name ≠ "_id" → fs.get? name = some (.obj [("$push", operand)]) →
    ∀ g ∈ groups, (s.document g).get? name =
      some (.arr (g.members.filterMap (evaluate? · operand)))
  /-- The outputs of a group are those of its documents alone under a key that is null for all. -/
  alone : ∀ g ∈ groups, ∃ outputs, s.document g = .obj (("_id", g.key) :: outputs) ∧
    group (.obj (fs.insert "_id" .null)) g.members = .ok [.obj (("_id", .null) :: outputs)]

/-- **Grouping partitions the documents**, and makes of each group what it makes of its documents
alone. -/
theorem exists_grouped {fs : Fields} {docs : List Json} (spec : IsGroupSpec fs)
    (expression : (Json.obj fs).WellFormed) (wf : ∀ d ∈ docs, d.WellFormed) :
    ∃ s groups, Grouped fs docs s groups := by
  obtain ⟨s, read⟩ := exists_groupSpec_iff.2 spec
  have key : s.key.WellFormed := expression.of_get? (groupSpec_eq_ok.1 read).1
  have partition := partition_ofDocuments s.key fun d hd => wellFormed_evaluate (wf d hd) key
  refine ⟨s, Group.ofDocuments s.key docs, read, Fallible.bind_eq_ok.2 ⟨s, read, rfl⟩,
    (onePass_eq s docs).symm, partition, fun name operand other counted => ?_,
    fun name operand other pushed g _ => ?_, fun g hg => ⟨_, rfl, ?_⟩⟩
  · refine ⟨(Group.ofDocuments s.key docs).map (·.members.length), ?_, sum_length_ofDocuments ..⟩
    rw [List.map_map]
    refine List.map_congr_left fun g _ => ?_
    rw [get?_document read other counted rfl, Accumulator.result, List.length_map]
    rfl
  · rw [get?_document read other pushed rfl, Accumulator.result, List.filterMap_map]
    rfl
  · obtain ⟨firsts, -, opens⟩ := partition.opened
    obtain ⟨d, -, -, others, members⟩ := Fallible.exists_of_mem opens hg
    refine Fallible.bind_eq_ok.2 ⟨_, groupSpec_null read, ?_⟩
    rw [ofDocuments_null (by simp [members])]
    rfl

/-- A missing key and a null one are one group; a null operand is pushed, and a missing one is not. -/
theorem exists_grouped_missing :
    let fs : Fields := [("_id", .str "$k"), ("n", .obj [("$count", .obj [])]),
      ("vs", .obj [("$push", .str "$v")])]
    let docs : List Json := [.obj [("k", .int 1), ("v", .int 5)], .obj [("v", .int 6)],
      .obj [("k", .int 1), ("v", .null)], .obj [("k", .null)]]
    ∃ s groups, Grouped fs docs s groups ∧ groups.map s.document =
      [.obj [("_id", .int 1), ("n", .nat 2), ("vs", .arr [.int 5, .null])],
        .obj [("_id", .null), ("n", .nat 2), ("vs", .arr [.int 6])]] := by
  intro fs docs
  have spec : IsGroupSpec fs := by
    refine ⟨rfl, fun f hf other => ?_⟩
    simp only [fs, List.mem_cons, List.not_mem_nil, or_false] at hf
    rcases hf with rfl | rfl | rfl
    · exact absurd rfl other
    · exact ⟨_, _, rfl, rfl⟩
    · exact ⟨_, _, rfl, rfl⟩
  have expression : (Json.obj fs).WellFormed := by
    have single (operator : String) {v : Json} (wf : v.WellFormed) :
        (Json.obj [(operator, v)]).WellFormed := .obj (List.nodup_singleton _) (by simpa using wf)
    have empty : (Json.obj []).WellFormed := .obj (by decide) (by simp)
    refine .obj (by decide) ?_
    simp only [fs, List.forall_mem_cons]
    exact ⟨.str _, single _ empty, single _ (.str _), by simp⟩
  have wf : ∀ d ∈ docs, d.WellFormed := by
    simp only [docs, List.forall_mem_cons]
    refine ⟨.obj (by decide) ?_, .obj (by decide) ?_, .obj (by decide) ?_, .obj (by decide) ?_,
      by simp⟩ <;> simp [Json.WellFormed.null, Json.WellFormed.num, Json.int]
  obtain ⟨s, groups, grouped⟩ := exists_grouped spec expression wf
  refine ⟨s, groups, grouped, ?_⟩
  have result : group (.obj fs) docs =
    .ok [.obj [("_id", .int 1), ("n", .nat 2), ("vs", .arr [.int 5, .null])],
      .obj [("_id", .null), ("n", .nat 2), ("vs", .arr [.int 6])]] := by rfl
  exact Except.ok.inj (grouped.documents.symm.trans result)

end Aggregation

end DocStore
