import DocStore.Aggregation.Projection
import DocStore.Pipeline.Basic
import DocStore.Proofs.Fallible
import DocStore.Proofs.Filter.Meaning
import DocStore.Proofs.Json.Paths

/-!
# Pipelines that the builder accepts

`Pipeline.Built` are the pipelines that successful calls lead to. Each call adds one stage that was
checked, and changes the aliases in scope by it (`Stage.Enters`); a pipeline is a list of such
stages (`Pipeline.Built.scoped`).
-/

namespace DocStore

open Aggregation (keeps? excludes includes)

/-- A name that a computed field may have. -/
def Pipeline.IsOutputName (name : String) : Prop := checkOutputName name = .ok ()

/-- A projection leaves a top-level field in scope: it keeps or computes the field or something
below it, or it drops fields but not this one. -/
def Aggregation.Spares (spec : Fields) (name : String) : Prop :=
  if includes spec then ∃ f ∈ spec, Path.root f.1 = name ∧ keeps? f.2 ≠ some false
  else ∀ v, (name, v) ∈ spec → keeps? v ≠ some false

/-- A stage passes the checks of the builder when some aliases are in scope, and leaves others. -/
inductive Stage.Enters (Admitted : Filter → Prop) (scope : List String) :
    Stage → List String → Prop where
  | select {f : Filter} {types : FieldLookup} {query : Json} :
    Admitted f → f.toQuery types = .ok query → Enters Admitted scope (.select query) scope
  | group {key : Json} {accumulators : Fields} :
    (∀ acc ∈ accumulators, Pipeline.IsOutputName acc.1 ∧
      Pipeline.checkAccumulator acc.1 acc.2 = .ok ()) →
    Enters Admitted scope (.group key accumulators) (accumulators.map (·.1))
  | sort {keys : List (String × Int)} : (∀ k ∈ keys, k.2 = 1 ∨ k.2 = -1) →
    Enters Admitted scope (.sort keys) scope
  | limit {n : Nat} : 0 < n → FitsNat64 n → Enters Admitted scope (.limit n) scope
  | skip {n : Nat} : FitsNat64 n → Enters Admitted scope (.skip n) scope
  | lookup {source localField foreignField target : String} :
    Pipeline.IsOutputName target →
    Enters Admitted scope (.lookup source localField foreignField target) (target :: scope)
  | unwind {path : String} : Enters Admitted scope (.unwind path) scope
  | project {fields : Fields} {scope' : List String} :
    (excludes fields && includes fields) = false →
    (∀ name ∈ scope', name ∈ scope ∧
      (Pipeline.IsOutputName name → Aggregation.Spares fields name)) →
    Enters Admitted scope (.project fields) scope'

namespace Pipeline

open Fallible (bind_eq_ok forM_eq_ok)

/-- The pipelines that successful calls of the builder lead to, with filters of a given sort. -/
inductive Built (Admitted : Filter → Prop) : Pipeline → Prop where
  | empty : Built Admitted {}
  | coerce {p : Pipeline} (s : Schema) : Built Admitted p →
    Built Admitted { p with schema := some s }
  | selectFilter {p p' : Pipeline} {f : Filter} : Built Admitted p → Admitted f →
    p.selectFilter f = .ok p' → Built Admitted p'
  | selectPredicates {p p' : Pipeline} {predicates : Json} : Built Admitted p →
    (∀ f, Filter.ofPredicates predicates = .ok f → Admitted f) →
    p.selectPredicates predicates = .ok p' → Built Admitted p'
  | group {p p' : Pipeline} {key : Option Json} {accumulators : Json} : Built Admitted p →
    p.group key accumulators = .ok p' → Built Admitted p'
  | sort {p p' : Pipeline} {keys : List (String × Int)} : Built Admitted p →
    p.sort keys = .ok p' → Built Admitted p'
  | limit {p p' : Pipeline} {n : Nat} : Built Admitted p → FitsNat64 n →
    p.limit n = .ok p' → Built Admitted p'
  | skip {p : Pipeline} {n : Nat} : Built Admitted p → FitsNat64 n → Built Admitted (p.skip n)
  | lookup {p p' : Pipeline} {source localField foreignField target : String} : Built Admitted p →
    p.lookup source localField foreignField target = .ok p' → Built Admitted p'
  | unwind {p p' : Pipeline} {name : String} : Built Admitted p → p.unwind name = .ok p' →
    Built Admitted p'
  | unwindPath {p p' : Pipeline} {path : String} : Built Admitted p →
    p.unwindPath path = .ok p' → Built Admitted p'
  | project {p p' : Pipeline} {spec : Json} : Built Admitted p → p.project spec = .ok p' →
    Built Admitted p'

/-- Stages that passed the checks one after another, and the aliases that they leave in scope. -/
inductive Scoped (Admitted : Filter → Prop) : List Stage → List String → Prop where
  | nil : Scoped Admitted [] []
  | snoc {stages : List Stage} {scope scope' : List String} {s : Stage} :
    Scoped Admitted stages scope → s.Enters Admitted scope scope' →
    Scoped Admitted (stages ++ [s]) scope'

section

variable {Admitted : Filter → Prop} {p p' : Pipeline}

theorem IsOutputName.ne_id {name : String} (h : IsOutputName name) : name ≠ "_id" := by
  rintro rfl
  cases h

theorem IsOutputName.plain {name : String} (h : IsOutputName name) : '.' ∉ name.toList := by
  unfold IsOutputName checkOutputName at h
  split at h
  · cases h
  · split at h
    · cases h
    · split at h
      · cases h
      · rename_i dotless
        simpa using dotless

theorem IsOutputName.root {name : String} (h : IsOutputName name) : Path.root name = name := by
  rw [Path.root, Path.ofString_eq_singleton.2 ⟨rfl, h.plain⟩]
  rfl

theorem checkSortKeys_eq_ok {stage : Bool} {seen : List String} {keys : List (String × Int)}
    (h : checkSortKeys stage seen keys = .ok ()) : ∀ k ∈ keys, k.2 = 1 ∨ k.2 = -1 := by
  induction keys generalizing seen with
  | nil => simp
  | cons k keys ih =>
    obtain ⟨field, direction⟩ := k
    rw [checkSortKeys] at h
    split at h
    · cases h
    · split at h
      · cases h
      · split at h
        · cases h
        · rename_i given _
          have either : direction = 1 ∨ direction = -1 := by omega
          exact List.forall_mem_cons.2 ⟨either, ih h⟩

/-- A checked projection is read as it will be applied. -/
theorem keeps?_of_keepsField? {v : Json} {b : Bool} (h : keepsField? v = some b) :
    (keeps? v != some false) = b := by
  cases v with
  | bool c =>
    cases h
    cases b <;> rfl
  | num n =>
    cases h
    rw [keeps?]
    cases n.toBinary64.isZero <;> rfl
  | str | obj =>
    cases h
    rfl
  | _ => cases h

theorem projected_eq_ok {fields : Fields} {listed : List (String × Bool)}
    (h : projected fields = .ok listed) :
    listed = (fields.filter fun f => f.1 != "_id").map fun f => (f.1, keeps? f.2 != some false) := by
  induction fields generalizing listed with
  | nil =>
    cases h
    rfl
  | cons f fields ih =>
    obtain ⟨name, v⟩ := f
    rw [projected] at h
    split at h
    · cases h
    · split at h
      · cases h
      · rename_i keeps given
        obtain ⟨others, hothers, h⟩ := bind_eq_ok.1 h
        cases h
        rw [ih hothers, ← keeps?_of_keepsField? given]
        cases same : name == "_id" <;> simp [same, bne]

theorem mem_projected {fields : Fields} {listed : List (String × Bool)}
    (h : projected fields = .ok listed) {field : String} {b : Bool} :
    (field, b) ∈ listed ↔
      ∃ v, (field, v) ∈ fields ∧ field ≠ "_id" ∧ (keeps? v != some false) = b := by
  simp [projected_eq_ok h, and_assoc]

theorem includes_iff {fields : Fields} {listed : List (String × Bool)}
    (h : projected fields = .ok listed) :
    includes fields = true ↔ ∃ field, (field, true) ∈ listed := by
  simp [includes, mem_projected h]

theorem excludes_iff {fields : Fields} {listed : List (String × Bool)}
    (h : projected fields = .ok listed) :
    excludes fields = true ↔ ∃ field, (field, false) ∈ listed := by
  simp [excludes, mem_projected h]

/-- What an including projection keeps or computes something of is spared. -/
theorem spares_of_kept {fields : Fields} {listed : List (String × Bool)}
    (h : projected fields = .ok listed) (including : includes fields = true) {field : String}
    (kept : (field, true) ∈ listed) : Aggregation.Spares fields (Path.root field) := by
  obtain ⟨v, member, -, keeps⟩ := (mem_projected h).1 kept
  rw [Aggregation.Spares, if_pos including]
  exact ⟨(field, v), member, rfl, by simpa using keeps⟩

/-- What an excluding projection does not name is spared. -/
theorem spares_of_not_dropped {fields : Fields} {listed : List (String × Bool)}
    (h : projected fields = .ok listed) (excluding : includes fields = false) {name : String}
    (other : name ≠ "_id") (spared : (name, false) ∉ listed) : Aggregation.Spares fields name := by
  rw [Aggregation.Spares, if_neg (by simp [excluding])]
  intro v member dropped
  exact spared ((mem_projected h).2 ⟨v, member, other, by simp [dropped]⟩)

/-- A projection is applied as keeping fields or as dropping fields, and spares what stays in
scope. -/
theorem project_cases {spec : Json} (h : p.project spec = .ok p') :
    ∃ fields scope, spec = .obj fields ∧ (excludes fields && includes fields) = false ∧
      (∀ name ∈ scope, name ∈ p.aliases ∧ (IsOutputName name → Aggregation.Spares fields name)) ∧
      p' = ({ p with aliases := scope } : Pipeline).push (.project fields) := by
  cases spec with
  | obj fields =>
    unfold project at h
    dsimp only at h
    split at h
    · cases h
    · obtain ⟨listed, hlisted, h⟩ := bind_eq_ok.1 h
      have keeping : (listed.filter (·.2)).isEmpty = !includes fields := by
        rw [Bool.eq_iff_iff, Bool.not_eq_true', ← Bool.not_eq_true, includes_iff hlisted]
        simp
      have dropping : (listed.filter (!·.2)).isEmpty = !excludes fields := by
        rw [Bool.eq_iff_iff, Bool.not_eq_true', ← Bool.not_eq_true, excludes_iff hlisted]
        simp
      split at h
      · cases h
      · rename_i unmixed
        refine ⟨fields, _, rfl, ?_, ?_, (Except.ok.inj h).symm⟩
        · simpa [keeping, dropping, and_comm] using unmixed
        · intro name member
          rw [keeping] at member
          cases kind : includes fields with
          | true =>
            rw [kind, if_neg (by simp), List.mem_filter, List.contains_iff_mem, List.mem_map] at member
            obtain ⟨here, ⟨field, b⟩, kept, rfl⟩ := member
            obtain ⟨kept, rfl⟩ := List.mem_filter.1 kept
            exact ⟨here, fun _ => spares_of_kept hlisted kind kept⟩
          | false =>
            rw [kind, if_pos (by simp), List.mem_filter] at member
            obtain ⟨here, spared⟩ := member
            refine ⟨here, fun proper => ?_⟩
            refine spares_of_not_dropped hlisted kind proper.ne_id fun dropped => ?_
            simp [dropped, proper.root] at spared
  | _ => cases h

theorem group_cases {key : Option Json} {accumulators : Json}
    (h : p.group key accumulators = .ok p') :
    ∃ fields, (∀ acc ∈ fields, IsOutputName acc.1 ∧ checkAccumulator acc.1 acc.2 = .ok ()) ∧
      p' = ({ p with aliases := fields.map (·.1) } : Pipeline).push
        (.group (key.getD .null) fields) := by
  cases accumulators with
  | obj fields =>
    obtain ⟨_, checked, h⟩ := bind_eq_ok.1 h
    refine ⟨fields, fun acc member => ?_, (Except.ok.inj h).symm⟩
    obtain ⟨_, name, spec⟩ := bind_eq_ok.1 (forM_eq_ok.1 checked acc member)
    exact ⟨name, spec⟩
  | _ => cases h

theorem sort_cases {keys : List (String × Int)} (h : p.sort keys = .ok p') :
    (∀ k ∈ keys, k.2 = 1 ∨ k.2 = -1) ∧ p' = p.push (.sort keys) := by
  unfold sort at h
  split at h
  · cases h
  · obtain ⟨_, checked, h⟩ := bind_eq_ok.1 h
    exact ⟨checkSortKeys_eq_ok checked, (Except.ok.inj h).symm⟩

theorem lookup_cases {source localField foreignField target : String}
    (h : p.lookup source localField foreignField target = .ok p') :
    IsOutputName target ∧ p' = ({ p with aliases := target :: p.aliases } : Pipeline).push
      (.lookup source localField foreignField target) := by
  obtain ⟨_, -, h⟩ := bind_eq_ok.1 h
  obtain ⟨_, named, h⟩ := bind_eq_ok.1 h
  exact ⟨named, (Except.ok.inj h).symm⟩

/-- Only a path below a declared alias is unwound by its alias. -/
theorem unwind_cases {name : String} (h : p.unwind name = .ok p') :
    ∃ path, unwindPathOf name = .ok path ∧ Path.root path ∈ p.aliases ∧
      p' = p.push (.unwind path) := by
  obtain ⟨path, hpath, h⟩ := bind_eq_ok.1 h
  split at h
  · rename_i declared
    exact ⟨path, hpath, by simpa using declared, (Except.ok.inj h).symm⟩
  · cases h

/-- Each call adds one stage that was checked. -/
theorem Built.scoped (built : Built Admitted p) : Scoped Admitted p.stages p.aliases := by
  induction built with
  | empty => exact .nil
  | coerce _ _ ih => exact ih
  | selectFilter _ admitted call ih =>
    obtain ⟨query, compiled, call⟩ := bind_eq_ok.1 call
    cases call
    exact ih.snoc (.select admitted compiled)
  | selectPredicates _ admitted call ih =>
    obtain ⟨f, read, call⟩ := bind_eq_ok.1 call
    obtain ⟨query, compiled, call⟩ := bind_eq_ok.1 call
    cases call
    exact ih.snoc (.select (admitted f read) compiled)
  | group _ call ih =>
    obtain ⟨fields, checked, rfl⟩ := group_cases call
    exact ih.snoc (.group checked)
  | sort _ call ih =>
    obtain ⟨directions, rfl⟩ := sort_cases call
    exact ih.snoc (.sort directions)
  | limit _ fits call ih =>
    unfold Pipeline.limit at call
    split at call
    · cases call
    · cases call
      exact ih.snoc (.limit (by omega) fits)
  | skip _ fits ih => exact ih.snoc (.skip fits)
  | lookup _ call ih =>
    obtain ⟨named, rfl⟩ := lookup_cases call
    exact ih.snoc (.lookup named)
  | unwind _ call ih =>
    obtain ⟨path, -, -, rfl⟩ := unwind_cases call
    exact ih.snoc .unwind
  | unwindPath _ call ih =>
    obtain ⟨path, -, call⟩ := bind_eq_ok.1 call
    cases call
    exact ih.snoc .unwind
  | project _ call ih =>
    obtain ⟨fields, scope, rfl, unmixed, spared, rfl⟩ := project_cases call
    exact ih.snoc (.project unmixed spared)

/-- Each stage of a pipeline was checked by the builder. -/
theorem Scoped.exists_enters {stages : List Stage} {scope : List String}
    (h : Scoped Admitted stages scope) :
    ∀ s ∈ stages, ∃ before after, s.Enters Admitted before after := by
  induction h with
  | nil => simp
  | snoc _ entered ih => exact List.forall_mem_append.2 ⟨ih, by simpa using ⟨_, _, entered⟩⟩

/-- Every alias in scope can be the name of a computed field. -/
theorem Scoped.isOutputName {stages : List Stage} {scope : List String}
    (h : Scoped Admitted stages scope) : ∀ name ∈ scope, IsOutputName name := by
  induction h with
  | nil => simp
  | snoc _ entered ih =>
    cases entered with
    | group checked => exact List.forall_mem_map.2 fun acc member => (checked acc member).1
    | lookup named => exact List.forall_mem_cons.2 ⟨named, ih⟩
    | project _ spared => exact fun name member => ih name (spared name member).1
    | _ => exact ih

end

end Pipeline

end DocStore
