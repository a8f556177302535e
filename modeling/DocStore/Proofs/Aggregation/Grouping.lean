import DocStore.Aggregation.Grouping
import DocStore.Proofs.Fallible
import DocStore.Proofs.Json.Fields

/-!
# Groups of documents

Which specifications can be grouped by (`exists_groupSpec_iff`), and how documents fall into groups: the
first document opens a group that takes every later document whose key equals its own, and the others
are grouped by themselves (`Group.ofDocuments_cons`).
-/

namespace DocStore.Aggregation

open Fallible (bind_eq_ok mapM_eq_ok)

/-! ## Specifications -/

/-- A specification of groups: a key, and under every other name an operand for an accumulator. -/
structure IsGroupSpec (fs : Fields) : Prop where
  key : (fs.get? "_id").isSome
  accumulators : ∀ f ∈ fs, f.1 ≠ "_id" → ∃ operator operand, f.2 = .obj [(operator, operand)] ∧
    (Accumulator.ofName? operator).isSome

theorem output_eq_ok {name : String} {spec : Json} {o : Output} :
    GroupSpec.output name spec = .ok o ↔ ∃ operator, spec = .obj [(operator, o.operand)] ∧
      Accumulator.ofName? operator = some o.accumulator ∧ o.name = name := by
  unfold GroupSpec.output
  constructor
  · intro h
    split at h
    · cases h
    · rename_i operator operand single
      split at h
      · rename_i a named
        cases h
        unfold singleField? at single
        split at single
        · cases single
          exact ⟨operator, rfl, named, rfl⟩
        · cases single
      · cases h
  · rintro ⟨operator, rfl, named, rfl⟩
    simp only [singleField?, named]

/-- A specification is read as its key and a computed field under each of the other names. -/
theorem groupSpec_eq_ok {fs : Fields} {s : GroupSpec} :
    GroupSpec.ofJson (.obj fs) = .ok s ↔ fs.get? "_id" = some s.key ∧
      List.Forall₂ (fun f o => GroupSpec.output f.1 f.2 = .ok o) (fs.filter (·.1 != "_id"))
        s.outputs := by
  rw [← mapM_eq_ok, GroupSpec.ofJson]
  cases fs.get? "_id" with
  | none => simp
  | some key =>
    simp only [bind_eq_ok, Option.some.injEq]
    constructor
    · rintro ⟨outputs, read, h⟩
      cases h
      exact ⟨rfl, read⟩
    · rintro ⟨rfl, read⟩
      exact ⟨_, read, rfl⟩

/-- Exactly the specifications whose fields name accumulators can be grouped by. -/
theorem exists_groupSpec_iff {fs : Fields} :
    (∃ s, GroupSpec.ofJson (.obj fs) = .ok s) ↔ IsGroupSpec fs := by
  constructor
  · rintro ⟨s, h⟩
    obtain ⟨key, outputs⟩ := groupSpec_eq_ok.1 h
    refine ⟨by simp [key], fun f hf other => ?_⟩
    have listed : f ∈ fs.filter (·.1 != "_id") := List.mem_filter.2 ⟨hf, by simpa using other⟩
    obtain ⟨o, -, read⟩ := Fallible.exists_of_mem outputs.flip listed
    obtain ⟨operator, single, named, -⟩ := output_eq_ok.1 read
    exact ⟨operator, o.operand, single, by simp [named]⟩
  · rintro ⟨key, accumulators⟩
    obtain ⟨key, hkey⟩ := Option.isSome_iff_exists.1 key
    have readable : ∀ f ∈ fs.filter (·.1 != "_id"), ∃ o, GroupSpec.output f.1 f.2 = .ok o := by
      intro f hf
      obtain ⟨member, other⟩ := List.mem_filter.1 hf
      obtain ⟨operator, operand, single, named⟩ := accumulators f member (by simpa using other)
      obtain ⟨a, named⟩ := Option.isSome_iff_exists.1 named
      exact ⟨⟨f.1, a, operand⟩, output_eq_ok.2 ⟨operator, single, named, rfl⟩⟩
    obtain ⟨outputs, read⟩ := Fallible.exists_mapM readable
    exact ⟨⟨key, outputs⟩, groupSpec_eq_ok.2 ⟨hkey, mapM_eq_ok.1 read⟩⟩

/-! ## Groups -/

namespace Group

variable (key : Json)

/-- The first group takes the documents whose keys equal its own; the others go on to the rest. -/
theorem foldl_place (g : Group) (groups : List Group) (docs : List Json) :
    docs.foldl (fun groups d => place (evaluate d key) d groups) (g :: groups) =
      { g with members := g.members ++ docs.filter fun d => g.key.equals (evaluate d key) } ::
        (docs.filter fun d => !g.key.equals (evaluate d key)).foldl
          (fun groups d => place (evaluate d key) d groups) groups := by
  induction docs generalizing g groups with
  | nil => simp
  | cons d docs ih =>
    rw [List.foldl_cons, place]
    split
    · rename_i equal
      simp [ih, equal]
    · rename_i other
      simp [ih, other]

/-- **The first document opens a group** that takes every later document whose key equals its own, and
the others are grouped by themselves. -/
theorem ofDocuments_cons (d : Json) (docs : List Json) :
    ofDocuments key (d :: docs) =
      ⟨evaluate d key, d :: docs.filter fun e => (evaluate d key).equals (evaluate e key)⟩ ::
        ofDocuments key (docs.filter fun e => !(evaluate d key).equals (evaluate e key)) := by
  rw [ofDocuments, List.foldl_cons, place, foldl_place, List.singleton_append]
  rfl

variable {key} in
/-- Documents with one key that no later document has are a group. -/
theorem ofDocuments_block {id : Json} {block rest : List Json} (filled : block ≠ [])
    (same : ∀ e ∈ block, evaluate e key = id) (reflexive : id.equals id = true)
    (apart : ∀ e ∈ rest, id.equals (evaluate e key) = false) :
    ofDocuments key (block ++ rest) = ⟨id, block⟩ :: ofDocuments key rest := by
  obtain ⟨d, block, rfl⟩ := List.exists_cons_of_ne_nil filled
  obtain ⟨first, others⟩ := List.forall_mem_cons.1 same
  have taken : block.filter (fun e => id.equals (evaluate e key)) = block :=
    List.filter_eq_self.2 fun e he => by rw [others e he, reflexive]
  have left : block.filter (fun e => !id.equals (evaluate e key)) = [] :=
    List.filter_eq_nil_iff.2 fun e he => by simp [others e he, reflexive]
  have passed : rest.filter (fun e => id.equals (evaluate e key)) = [] :=
    List.filter_eq_nil_iff.2 fun e he => by simp [apart e he]
  have kept : rest.filter (fun e => !id.equals (evaluate e key)) = rest :=
    List.filter_eq_self.2 fun e he => by simp [apart e he]
  rw [List.cons_append, ofDocuments_cons]
  simp only [first, List.filter_append, taken, left, passed, kept, List.append_nil, List.nil_append]

/-- Induction on documents along the groups that they fall into. -/
@[elab_as_elim]
theorem inductionOn {motive : List Json → Prop} (docs : List Json) (nil : motive [])
    (cons : ∀ d docs, motive (docs.filter fun e => !(evaluate d key).equals (evaluate e key)) →
      motive (d :: docs)) : motive docs := by
  induction length : docs.length using Nat.strongRecOn generalizing docs with
  | ind n ih =>
    cases docs with
    | nil => exact nil
    | cons d docs =>
      refine cons d docs (ih _ ?_ _ rfl)
      have := List.length_filter_le (fun e => !(evaluate d key).equals (evaluate e key)) docs
      simp only [List.length_cons] at length
      omega

end Group

end DocStore.Aggregation
