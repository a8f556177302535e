import DocStore.Client.Find
import DocStore.Proofs.Aggregation.Projecting
import DocStore.Proofs.Json.ChangeLists
import DocStore.Store.Read

/-!
# Lists of fields

A query can list the fields that it wants of a document, or those that it does not want. If no listed
field lies on the way to another one, what it shows of a document is known place by place: of the
wanted fields, what the document has there and nothing else (`Find.Included`); without the unwanted
ones, everything else (`Find.Excluded`). Writing leads over objects only, so a wanted part of an array
inside the identifier cannot be shown (`Find.Blocked`); and items of arrays cannot be left out.
-/

namespace DocStore

open Json (PathChange)

namespace Aggregation

/-! ## An including projection as a list of writes -/

/-- The writes of an including projection. -/
def writes (spec : Fields) (doc : Json) : List PathChange :=
  spec.filterMap fun f => (written? doc f.1 f.2).map fun value => ⟨.ofString f.1, .write value⟩

variable {spec : Fields} {doc out start : Json}

theorem foldlM_includeField_eq_ok :
    spec.foldlM (fun out (field, v) => includeField doc out field v) start = .ok out ↔
      (writes spec doc).foldlM PathChange.apply start = some out := by
  induction spec generalizing start with
  | nil => exact (Except.ok.injEq start out).to_iff.trans (Option.some.injEq start out).to_iff.symm
  | cons f spec ih =>
    obtain ⟨field, v⟩ := f
    rw [List.foldlM_cons, Fallible.bind_eq_ok]
    dsimp only
    rw [includeField_eq]
    cases here : written? doc field v with
    | none =>
      have skipped : writes ((field, v) :: spec) doc = writes spec doc :=
        List.filterMap_cons_none (by rw [here]; rfl)
      simp only [skipped, Except.ok.injEq, exists_eq_left', ih]
    | some value =>
      have first : writes ((field, v) :: spec) doc =
          ⟨.ofString field, .write value⟩ :: writes spec doc :=
        List.filterMap_cons_some (by rw [here]; rfl)
      rw [first, List.foldlM_cons]
      simp only [write_eq_ok, ih]
      exact Option.bind_eq_some_iff.symm

end Aggregation

namespace Find

/-! ## What a list says -/

/-- A document as a query shows it. -/
def shown (q : Find) (doc : Json) : Except Aggregation.Fault Json :=
  match q.projection with
  | none => .ok doc
  | some spec => Aggregation.projectDocument spec doc

/-- The fields that a list names, each with whether it is wanted. -/
def listed (parts : List String) : List (String × Bool) := parts.map projectionKey

/-- No field of a list lies on the way to another one. -/
def Separate (parts : List String) : Prop :=
  ∀ s ∈ parts, ∀ t ∈ parts,
    Path.ofString (projectionKey s).1 <+: Path.ofString (projectionKey t).1 → s = t

instance (parts : List String) : Decidable (Separate parts) :=
  inferInstanceAs (Decidable (∀ s ∈ parts, ∀ t ∈ parts, _ → _))

/-- What a list says of a field, as a value of a projection. -/
def flag (wanted : Bool) : Json := .int (if wanted then 1 else 0)

/-- The projection that a list stands for. -/
def specOf (parts : List String) : Fields :=
  Fields.ofList ((listed parts).map fun f => (f.1, flag f.2))

section

variable {q q' : Find} {parts : List String} {doc out : Json} {n m : String} {w w' : Bool}

theorem keeps?_flag (wanted : Bool) : Aggregation.keeps? (flag wanted) = some wanted := by
  cases wanted with
  | false =>
    have zero : (Number.int 0).toBinary64.isZero = true := by decide +kernel
    exact congrArg (some !·) zero
  | true =>
    have one : (Number.int 1).toBinary64.isZero = false := by decide +kernel
    exact congrArg (some !·) one

theorem Separate.eq (separate : Separate parts) (one : (n, w) ∈ listed parts)
    (other : (m, w') ∈ listed parts) (inside : Path.ofString n <+: Path.ofString m) :
    n = m ∧ w = w' := by
  obtain ⟨s, hs, same⟩ := List.mem_map.1 one
  obtain ⟨t, ht, same'⟩ := List.mem_map.1 other
  have := separate s hs t ht (by rwa [same, same'])
  subst this
  exact Prod.mk.inj (same.symm.trans same')

theorem Separate.apart (separate : Separate parts) (one : (n, w) ∈ listed parts)
    (other : (m, w') ∈ listed parts) (different : n ≠ m) :
    (Path.ofString n).Apart (.ofString m) := by
  constructor
  · exact fun inside => different (separate.eq one other inside).1
  · exact fun inside => different (separate.eq other one inside).1.symm

/-- An accepted list does not mix fields that are wanted and fields that are not, the identifier
apart, and its projection is applied. -/
theorem of_project (accepted : q.project parts = .ok q') :
    ¬ ((∃ n, n ≠ "_id" ∧ (n, true) ∈ listed parts) ∧ ∃ n, n ≠ "_id" ∧ (n, false) ∈ listed parts) ∧
      ∀ doc, q'.shown doc = Aggregation.projectDocument (specOf parts) doc := by
  unfold project at accepted
  dsimp only at accepted
  split at accepted
  · cases accepted
  · split at accepted
    · cases accepted
    · rename_i unmixed
      constructor
      · rintro ⟨⟨n, other, wanted⟩, m, other', unwanted⟩
        apply unmixed
        rw [Bool.and_eq_true, List.any_eq_true, List.any_eq_true]
        constructor
        · exact ⟨(n, true), List.mem_filter.2 ⟨wanted, by simpa using other⟩, rfl⟩
        · exact ⟨(m, false), List.mem_filter.2 ⟨unwanted, by simpa using other'⟩, rfl⟩
      · obtain rfl := Except.ok.inj accepted
        have applied (spec : Fields) (doc : Json) :
            ({ q with projection := if spec.isEmpty then none else some spec } : Find).shown doc =
              Aggregation.projectDocument spec doc := by
          cases spec <;> rfl
        exact applied (specOf parts)

theorem nodup_keys_specOf (parts : List String) : (Fields.keys (specOf parts)).Nodup :=
  List.foldlRecOn (motive := fun fs => (Fields.keys fs).Nodup) _ _ List.nodup_nil fun _ h f _ =>
    Fields.nodup_keys_insert h f.1 f.2

theorem mem_specOf (separate : Separate parts) {f : String × Json} :
    f ∈ specOf parts ↔ ∃ n w, (n, w) ∈ listed parts ∧ f = (n, flag w) := by
  have given {f : String × Json} (mem : f ∈ specOf parts) :
      ∃ n w, (n, w) ∈ listed parts ∧ f = (n, flag w) := by
    rcases Fields.mem_foldl_insert mem with mem | mem
    · cases mem
    · obtain ⟨⟨n, w⟩, there, rfl⟩ := List.mem_map.1 mem
      exact ⟨n, w, there, rfl⟩
  constructor
  · exact given
  · rintro ⟨n, w, there, rfl⟩
    have key : n ∈ Fields.keys (specOf parts) := by
      apply Fields.mem_keys_foldl_insert.2
      exact .inr (List.mem_map.2 ⟨_, List.mem_map.2 ⟨_, there, rfl⟩, rfl⟩)
    obtain ⟨⟨_, v⟩, here, rfl⟩ := List.mem_map.1 key
    obtain ⟨m, w', there', same⟩ := given here
    obtain ⟨rfl, rfl⟩ := Prod.mk.inj same
    obtain ⟨-, rfl⟩ := separate.eq there there' (List.prefix_refl _)
    exact here

theorem any_specOf (separate : Separate parts) {P : String × Json → Bool} :
    (specOf parts).any P = true ↔ ∃ n w, (n, w) ∈ listed parts ∧ P (n, flag w) = true := by
  rw [List.any_eq_true]
  constructor
  · rintro ⟨f, mem, holds⟩
    obtain ⟨n, w, there, rfl⟩ := (mem_specOf separate).1 mem
    exact ⟨n, w, there, holds⟩
  · rintro ⟨n, w, there, holds⟩
    exact ⟨_, (mem_specOf separate).2 ⟨n, w, there, rfl⟩, holds⟩

theorem includes_specOf (separate : Separate parts) :
    Aggregation.includes (specOf parts) = true ↔ ∃ n, n ≠ "_id" ∧ (n, true) ∈ listed parts := by
  rw [Aggregation.includes, any_specOf separate]
  simp [keeps?_flag, and_comm]

theorem excludes_specOf (separate : Separate parts) :
    Aggregation.excludes (specOf parts) = true ↔ ∃ n, n ≠ "_id" ∧ (n, false) ∈ listed parts := by
  rw [Aggregation.excludes, any_specOf separate]
  simp [keeps?_flag, and_comm]

/-! ## Wanted fields -/

/-- A wanted field cannot be shown: it is a part of an array inside the identifier, which is shown
itself. -/
def Blocked (parts : List String) (doc : Json) (n : String) : Prop :=
  (n, true) ∈ listed parts ∧ Path.root n = "_id" ∧ (doc.getPath? n).isSome = true ∧
    doc.Obstructs (.ofString n)

/-- What is shown of a document if the list says what is wanted: at each wanted path what the document
has there, the identifier unless it is unwanted, and nothing that is not on the way to them. -/
structure Included (parts : List String) (doc out : Json) : Prop where
  object : out.isObject = true
  wanted : ∀ n, (n, true) ∈ listed parts → out.getPath? n = doc.getPath? n
  identifier : out.get? "_id" = if ("_id", false) ∈ listed parts then none else doc.get? "_id"
  nothing_else : ∀ π, out.view π ≠ none → π = [] ∨ (∃ ρ, π = .key "_id" :: ρ) ∨
    ∃ n, (n, true) ∈ listed parts ∧ (doc.getPath? n).isSome = true ∧
      ((Path.ofString n).place <+: π ∨ π <+: (Path.ofString n).place)

theorem get?_specOf_id (separate : Separate parts) :
    Fields.get? (specOf parts) "_id" = none ∧ (∀ w, ("_id", w) ∉ listed parts) ∨
      ∃ w, ("_id", w) ∈ listed parts ∧ Fields.get? (specOf parts) "_id" = some (flag w) := by
  cases here : Fields.get? (specOf parts) "_id" with
  | none =>
    refine .inl ⟨rfl, fun w there => ?_⟩
    have mem := (mem_specOf separate).2 ⟨"_id", w, there, rfl⟩
    rw [(Fields.get?_eq_some_iff (nodup_keys_specOf parts)).2 mem] at here
    cases here
  | some v =>
    obtain ⟨n, w, there, same⟩ := (mem_specOf separate).1 (Fields.mem_of_get? here)
    obtain ⟨rfl, rfl⟩ := Prod.mk.inj same
    exact .inr ⟨w, there, rfl⟩

/-- The identifier is shown from the start, unless it is unwanted. -/
theorem keptId_specOf (separate : Separate parts) (doc : Json) :
    Aggregation.keptId (specOf parts) doc =
      if ("_id", false) ∈ listed parts then []
      else (doc.get? "_id").toList.map fun id => ("_id", id) := by
  unfold Aggregation.keptId
  rcases get?_specOf_id separate with ⟨none, unlisted⟩ | ⟨w, there, here⟩
  · rw [none, if_neg (unlisted false)]
    rfl
  · rw [here]
    dsimp only
    rw [keeps?_flag]
    cases w with
    | false => rw [if_pos there]; rfl
    | true =>
      have wanted : ("_id", false) ∉ listed parts := fun unwanted =>
        absurd (separate.eq there unwanted (List.prefix_refl _)).2 nofun
      rw [if_neg wanted]
      rfl

/-- What is shown of a document before its wanted fields are. -/
def start (parts : List String) (doc : Json) : Json :=
  .obj (Aggregation.keptId (specOf parts) doc)

theorem get?_start (separate : Separate parts) (doc : Json) (k : String) :
    (start parts doc).get? k =
      if k = "_id" ∧ ("_id", false) ∉ listed parts then doc.get? "_id" else none := by
  rw [start, keptId_specOf separate]
  by_cases unwanted : ("_id", false) ∈ listed parts
  · simp [unwanted, Json.get?, Fields.get?]
  · rw [if_neg unwanted]
    cases doc.get? "_id" with
    | none => simp [Json.get?, Fields.get?]
    | some id =>
      show Fields.get? [("_id", id)] k = _
      rw [Fields.get?_cons]
      simp [unwanted, Fields.get?]

theorem wellFormed_start (separate : Separate parts) (wf : doc.WellFormed) :
    (start parts doc).WellFormed := by
  have identifier := get?_start separate doc "_id"
  unfold start at identifier ⊢
  rcases Aggregation.keptId_cases (specOf parts) doc with none | ⟨id, one⟩
  · rw [none]
    exact .obj List.nodup_nil fun _ mem => absurd mem List.not_mem_nil
  · rw [one] at identifier ⊢
    have there : doc.get? "_id" = some id := by
      split at identifier
      · exact identifier.symm
      · cases identifier
    have part : id.WellFormed := by
      cases doc with
      | obj fs => exact wf.of_get? there
      | _ => cases there
    exact .obj (List.nodup_singleton _) (List.forall_mem_singleton.2 part)

/-- Where a field is wanted, the identifier is not unwanted if the field is a part of it. -/
theorem Separate.keeps_id (separate : Separate parts) (there : (n, true) ∈ listed parts)
    (root : Path.root n = "_id") : ("_id", false) ∉ listed parts := by
  intro unwanted
  obtain ⟨rest, split⟩ := Path.exists_below_root n
  have inside : Path.ofString "_id" <+: Path.ofString n := by
    rw [Path.ofString_id, split, root]
    exact List.prefix_append ["_id"] rest
  exact absurd (separate.eq unwanted there inside).2 nofun

/-- At a wanted path, what is shown from the start is a part of the identifier. -/
theorem getPath?_start (separate : Separate parts) (object : doc.isObject = true)
    (there : (n, true) ∈ listed parts) :
    (start parts doc).getPath? n = if Path.root n = "_id" then doc.getPath? n else none := by
  obtain ⟨fs, rfl⟩ := Json.exists_fields object
  obtain ⟨rest, split⟩ := Path.exists_below_root n
  have child (k : String) : (start parts (.obj fs)).child? k = (start parts (.obj fs)).get? k := rfl
  rw [Json.getPath?, Json.getPath?, split, Json.getSegments?_cons, child, get?_start separate]
  by_cases identifier : Path.root n = "_id"
  · rw [if_pos ⟨identifier, separate.keeps_id there identifier⟩, if_pos identifier, identifier]
    rfl
  · rw [if_neg fun h => identifier h.1, if_neg identifier]
    rfl

theorem obstructs_start_iff (separate : Separate parts) (object : doc.isObject = true)
    (there : (n, true) ∈ listed parts) : (start parts doc).Obstructs (.ofString n) ↔
      Path.root n = "_id" ∧ doc.Obstructs (.ofString n) := by
  obtain ⟨fs, rfl⟩ := Json.exists_fields object
  obtain ⟨rest, split⟩ := Path.exists_below_root n
  have child (k : String) : (start parts (.obj fs)).child? k = (start parts (.obj fs)).get? k := rfl
  rw [split, Json.obstructs_cons, child, get?_start separate]
  by_cases identifier : Path.root n = "_id"
  · rw [if_pos ⟨identifier, separate.keeps_id there identifier⟩, identifier, Json.obstructs_cons]
    exact (and_iff_right rfl).symm
  · rw [if_neg fun h => identifier h.1]
    refine iff_of_false ?_ fun h => identifier h.1
    rintro (blocked | ⟨_, none, -⟩)
    · cases blocked
    · cases none

theorem mem_writes (separate : Separate parts) {c : PathChange} :
    c ∈ Aggregation.writes (specOf parts) doc ↔ ∃ n value, n ≠ "_id" ∧ (n, true) ∈ listed parts ∧
      doc.getPath? n = some value ∧ c = ⟨.ofString n, .write value⟩ := by
  rw [Aggregation.writes, List.mem_filterMap]
  constructor
  · rintro ⟨f, mem, written⟩
    obtain ⟨n, w, there, rfl⟩ := (mem_specOf separate).1 mem
    obtain ⟨value, here, rfl⟩ := Option.map_eq_some_iff.1 written
    rw [Aggregation.written?, keeps?_flag] at here
    cases w with
    | false => cases here
    | true =>
      dsimp only at here
      split at here
      · cases here
      · rename_i other
        exact ⟨n, value, other, there, here, rfl⟩
  · rintro ⟨n, value, other, there, here, rfl⟩
    refine ⟨_, (mem_specOf separate).2 ⟨n, true, there, rfl⟩, ?_⟩
    refine Option.map_eq_some_iff.2 ⟨value, ?_, rfl⟩
    rw [Aggregation.written?, keeps?_flag]
    exact (if_neg other).trans here

theorem pairwise_writes (separate : Separate parts) (doc : Json) :
    (Aggregation.writes (specOf parts) doc).Pairwise fun c c' => c.path.Apart c'.path := by
  rw [Aggregation.writes, List.pairwise_filterMap]
  have distinct : (specOf parts).Pairwise fun f g => f.1 ≠ g.1 :=
    List.pairwise_map.1 (nodup_keys_specOf parts)
  refine distinct.imp_of_mem ?_
  intro f g hf hg other c written c' written'
  obtain ⟨n, w, there, rfl⟩ := (mem_specOf separate).1 hf
  obtain ⟨m, w', there', rfl⟩ := (mem_specOf separate).1 hg
  obtain ⟨_, -, rfl⟩ := Option.map_eq_some_iff.1 written
  obtain ⟨_, -, rfl⟩ := Option.map_eq_some_iff.1 written'
  exact separate.apart there there' other

theorem getSegments?_singleton (object : doc.isObject = true) (k : String) :
    doc.getSegments? [k] = doc.get? k := by
  obtain ⟨fs, rfl⟩ := Json.exists_fields object
  rw [Json.getSegments?_cons, Json.child?_fields, Json.get?]
  cases Fields.get? fs k <;> rfl

theorem wellFormed_writes (separate : Separate parts) (wf : doc.WellFormed) :
    ∀ c ∈ Aggregation.writes (specOf parts) doc, c.WellFormed := by
  intro c mem value written
  obtain ⟨n, _, -, -, here, rfl⟩ := (mem_writes separate).1 mem
  cases written
  exact wf.getPath? here

theorem leave_writes (separate : Separate parts) :
    ∀ c ∈ Aggregation.writes (specOf parts) doc, c.action ≠ .remove := by
  intro c mem
  obtain ⟨n, _, -, -, -, rfl⟩ := (mem_writes separate).1 mem
  exact nofun

section

variable (separate : Separate parts) (wf : doc.WellFormed) (object : doc.isObject = true)
  (made : (Aggregation.writes (specOf parts) doc).foldlM PathChange.apply (start parts doc) = some out)

include separate wf object made

/-- Where all wanted fields were written, none is blocked. -/
theorem not_blocked_of_writes (n : String) : ¬ Blocked parts doc n := by
  rintro ⟨there, root, present, blocked⟩
  obtain ⟨value, here⟩ := Option.isSome_iff_exists.1 present
  have other : n ≠ "_id" := by
    rintro rfl
    obtain ⟨fs, rfl⟩ := Json.exists_fields object
    rw [Path.ofString_id, Json.obstructs_field] at blocked
    exact Json.not_obstructs_nil _ blocked
  have mem := (mem_writes separate).2 ⟨n, value, other, there, here, rfl⟩
  have free := PathChange.free_of_foldlM (pairwise_writes separate doc) (wellFormed_writes separate wf)
    (wellFormed_start separate wf) made _ mem value rfl
  exact free ((obstructs_start_iff separate object there).2 ⟨root, blocked⟩)

/-- What is written below the identifier is there, so that the identifier stays as it is. -/
theorem get?_id_of_writes :
    out.get? "_id" = if ("_id", false) ∈ listed parts then none else doc.get? "_id" := by
  have stays : out.getSegments? ["_id"] = (start parts doc).getSegments? ["_id"] := by
    refine PathChange.getSegments?_foldlM_of_repeats (fun c mem => ?_) (wellFormed_writes separate wf)
      (wellFormed_start separate wf) made
    have leaves := leave_writes separate c mem
    obtain ⟨n, value, other, there, here, rfl⟩ := (mem_writes separate).1 mem
    obtain ⟨rest, split⟩ := Path.exists_below_root n
    by_cases inside : Path.root n = "_id"
    · rw [inside] at split
      have below : rest ≠ [] := by
        rintro rfl
        exact other (Path.eq_of_ofString split)
      have repeated := getPath?_start separate object there
      rw [if_pos inside, here, Json.getPath?, split] at repeated
      exact .inr ⟨rest, value, below, by rw [split], repeated⟩
    · refine .inl ⟨leaves, ?_⟩
      rw [split]
      simp [Path.Apart, List.cons_prefix_cons, inside, Ne.symm inside]
  rw [← getSegments?_singleton (PathChange.isObject_of_foldlM rfl made), stays,
    getSegments?_singleton rfl, get?_start separate]
  by_cases unwanted : ("_id", false) ∈ listed parts <;> simp [unwanted]

theorem getPath?_of_writes (there : (n, true) ∈ listed parts) : out.getPath? n = doc.getPath? n := by
  have wfs := wellFormed_writes separate wf
  have wf' := wellFormed_start separate wf
  by_cases other : n = "_id"
  · subst other
    have kept : ("_id", false) ∉ listed parts := separate.keeps_id there (by decide)
    rw [Json.getPath?, Json.getPath?, Path.ofString_id, getSegments?_singleton object,
      getSegments?_singleton (PathChange.isObject_of_foldlM rfl made),
      get?_id_of_writes separate wf object made, if_neg kept]
  · cases here : doc.getPath? n with
    | some value =>
      have mem := (mem_writes separate).2 ⟨n, value, other, there, here, rfl⟩
      exact PathChange.getSegments?_foldlM_of_mem (pairwise_writes separate doc) wfs wf' made mem rfl
    | none =>
      -- The field is not there, and nothing else that is written is at, above or below its path.
      have apart : ∀ c ∈ Aggregation.writes (specOf parts) doc, c.path.Apart (.ofString n) := by
        intro c mem
        obtain ⟨m, value, -, there', here', rfl⟩ := (mem_writes separate).1 mem
        apply separate.apart there' there
        rintro rfl
        rw [here] at here'
        cases here'
      have writing : ¬ ∃ c ∈ Aggregation.writes (specOf parts) doc, c.action = .remove := by
        rintro ⟨c, mem, removes⟩
        exact leave_writes separate c mem removes
      have same := PathChange.getSegments?_foldlM_of_apart apart (absurd · writing) wfs wf' made
      refine same.trans ((getPath?_start separate object there).trans ?_)
      rw [here, ite_self]

omit object in
theorem view_of_writes {π : Place} (shown : out.view π ≠ none) :
    π = [] ∨ (∃ ρ, π = .key "_id" :: ρ) ∨
      ∃ n, (n, true) ∈ listed parts ∧ (doc.getPath? n).isSome = true ∧
        ((Path.ofString n).place <+: π ∨ π <+: (Path.ofString n).place) := by
  have wfs := wellFormed_writes separate wf
  rcases PathChange.view_foldlM wfs (wellFormed_start separate wf) made shown with
    before | ⟨c, mem, inside⟩
  · cases π with
    | nil => exact .inl rfl
    | cons s ρ =>
      cases s with
      | index i => exact absurd rfl before
      | key k =>
        have there : (start parts doc).get? k ≠ none := by
          intro absent
          apply before
          show ((start parts doc).get? k).bind _ = none
          rw [absent]
          rfl
        rw [get?_start separate] at there
        split at there
        · rename_i identifier
          exact .inr (.inl ⟨ρ, by rw [identifier.1]⟩)
        · exact absurd rfl there
  · obtain ⟨n, value, -, there, here, rfl⟩ := (mem_writes separate).1 mem
    exact .inr (.inr ⟨n, there, by rw [here]; rfl, inside⟩)

/-- **What the writes of wanted fields make of a document**, if they can be made. -/
theorem included_of_writes : Included parts doc out where
  object := PathChange.isObject_of_foldlM rfl made
  wanted _ there := getPath?_of_writes separate wf object made there
  identifier := get?_id_of_writes separate wf object made
  nothing_else _ shown := view_of_writes separate wf made shown

end

/-- A projection of wanted fields stops only at one that is blocked: the writes before it are apart from
it, so that what is in its way was there at the start. -/
theorem blocked_of_includeStops (separate : Separate parts) (wf : doc.WellFormed)
    (object : doc.isObject = true) (stops : Aggregation.IncludeStops (specOf parts) doc n) :
    Blocked parts doc n := by
  obtain ⟨before, v, after, out, value, split, soFar, writes, blocked⟩ := stops
  have mem : (n, v) ∈ specOf parts := by rw [split]; simp
  obtain ⟨n, w, there, same⟩ := (mem_specOf separate).1 mem
  obtain ⟨rfl, rfl⟩ := Prod.mk.inj same
  have parted : Aggregation.writes (specOf parts) doc = Aggregation.writes before doc ++
      Aggregation.writes ((n, flag w) :: after) doc := by
    rw [Aggregation.writes, split, List.filterMap_append]
    rfl
  have wfs := wellFormed_writes separate wf
  have pairwise := pairwise_writes separate doc
  rw [parted] at wfs pairwise
  have here : ⟨.ofString n, .write value⟩ ∈ Aggregation.writes ((n, flag w) :: after) doc :=
    List.mem_filterMap.2 ⟨_, List.mem_cons_self, by rw [writes]; rfl⟩
  have apart (c : PathChange) (mem : c ∈ Aggregation.writes before doc) :
      c.path.Apart (.ofString n) :=
    (List.pairwise_append.1 pairwise).2.2 c mem _ here
  have given (c : PathChange) (mem : c ∈ Aggregation.writes before doc) :=
    wfs c (List.mem_append_left _ mem)
  have made := Aggregation.foldlM_includeField_eq_ok.1 soFar
  rw [PathChange.obstructs_foldlM_iff apart given (wellFormed_start separate wf) made] at blocked
  rw [Aggregation.written?, keeps?_flag] at writes
  cases w with
  | false => cases writes
  | true =>
    dsimp only at writes
    split at writes
    · cases writes
    · obtain ⟨root, blocked⟩ := (obstructs_start_iff separate object there).1 blocked
      exact ⟨there, root, by rw [writes]; rfl, blocked⟩

/-- **A projection of wanted fields fails where one is blocked**, and only there. -/
theorem projectDocument_of_wanted (separate : Separate parts) (wf : doc.WellFormed)
    (object : doc.isObject = true) (some : ∃ n, n ≠ "_id" ∧ (n, true) ∈ listed parts)
    (none : ¬ ∃ n, n ≠ "_id" ∧ (n, false) ∈ listed parts) :
    (∃ n, Blocked parts doc n ∧
      Aggregation.projectDocument (specOf parts) doc = .error (.pathBlocked n)) ∨
    ∃ out, Aggregation.projectDocument (specOf parts) doc = .ok out ∧
      (∀ n, ¬ Blocked parts doc n) ∧ Included parts doc out := by
  have including := (includes_specOf separate).2 some
  have excluding : Aggregation.excludes (specOf parts) = false := by
    rw [← Bool.not_eq_true, excludes_specOf separate]
    exact none
  cases result : Aggregation.projectDocument (specOf parts) doc with
  | error e =>
    have unmixed : (Aggregation.excludes (specOf parts) && Aggregation.includes (specOf parts)) =
        false := by rw [excluding, Bool.false_and]
    obtain ⟨n, rfl, -, stops⟩ := (Aggregation.projectDocument_eq_error unmixed).1 result
    exact .inl ⟨n, blocked_of_includeStops separate wf object stops, rfl⟩
  | ok out =>
    rw [Aggregation.projectDocument, excluding, including] at result
    have made := Aggregation.foldlM_includeField_eq_ok.1 result
    exact .inr ⟨out, rfl, not_blocked_of_writes separate wf object made,
      included_of_writes separate wf object made⟩

/-! ## Unwanted fields -/

/-- A place is at or below an unwanted field. -/
def LeftOut (parts : List String) (doc : Json) (π : Place) : Prop :=
  ∃ n σ, (n, false) ∈ listed parts ∧ doc.fieldPlace? (.ofString n) = some σ ∧ σ <+: π

/-- What is shown of a document if the list says what is not wanted: nothing at the unwanted paths,
but for items of arrays, which stay; and everything else. -/
structure Excluded (parts : List String) (doc out : Json) : Prop where
  unwanted : ∀ n, (n, false) ∈ listed parts →
    doc.LeadsToItem (.ofString n) ∨ out.getPath? n = none
  left_out : ∀ π, LeftOut parts doc π → out.view π = none
  otherwise_same : ∀ π, ¬ LeftOut parts doc π → out.view π = doc.view π

theorem mem_dropped (separate : Separate parts) {p : Path} :
    p ∈ ((specOf parts).filter fun f => Aggregation.keeps? f.2 == some false).map
      (fun f => Path.ofString f.1) ↔ ∃ n, (n, false) ∈ listed parts ∧ p = .ofString n := by
  rw [List.mem_map]
  constructor
  · rintro ⟨f, mem, rfl⟩
    obtain ⟨mem, dropped⟩ := List.mem_filter.1 mem
    obtain ⟨n, w, there, rfl⟩ := (mem_specOf separate).1 mem
    rw [keeps?_flag, beq_iff_eq, Option.some.injEq] at dropped
    subst dropped
    exact ⟨n, there, rfl⟩
  · rintro ⟨n, there, rfl⟩
    refine ⟨(n, flag false), List.mem_filter.2 ⟨?_, ?_⟩, rfl⟩
    · exact (mem_specOf separate).2 ⟨n, false, there, rfl⟩
    · rw [keeps?_flag]
      rfl

/-- **A projection of unwanted fields leaves the others.** -/
theorem projectDocument_of_unwanted (separate : Separate parts) (wf : doc.WellFormed)
    (none : ¬ ∃ n, n ≠ "_id" ∧ (n, true) ∈ listed parts) :
    ∃ out, Aggregation.projectDocument (specOf parts) doc = .ok out ∧ Excluded parts doc out := by
  have including : Aggregation.includes (specOf parts) = false := by
    rw [← Bool.not_eq_true, includes_specOf separate]
    exact none
  refine ⟨_, Aggregation.projectDocument_of_excludes including, ?_⟩
  have removals : Aggregation.exclude (specOf parts) doc =
      (((specOf parts).filter fun f => Aggregation.keeps? f.2 == some false).map
        (fun f => Path.ofString f.1)).foldl (fun d p => Json.removeSegments p d) doc := by
    rw [List.foldl_map]
    rfl
  rw [removals]
  have leaves (π : Place) (shown : doc.view π ≠ Option.none) : LeftOut parts doc π ↔
      ∃ p ∈ ((specOf parts).filter fun f => Aggregation.keeps? f.2 == some false).map
        (fun f => Path.ofString f.1), Json.removes doc p π = true := by
    simp only [Json.removes_iff shown, mem_dropped separate]
    constructor
    · rintro ⟨n, σ, there, here, inside⟩
      exact ⟨_, ⟨n, there, rfl⟩, σ, here, inside⟩
    · rintro ⟨_, ⟨n, there, rfl⟩, σ, here, inside⟩
      exact ⟨n, σ, there, here, inside⟩
  constructor
  · intro n there
    have mem := (mem_dropped separate).2 ⟨n, there, rfl⟩
    rw [or_iff_not_imp_right]
    intro present
    obtain ⟨w, here⟩ := Option.ne_none_iff_exists'.1 present
    exact Json.leadsToItem_of_removals wf mem (Path.ofString_ne_nil n) here
  · intro π left
    rw [Json.view_removals wf]
    by_cases shown : doc.view π = Option.none
    · rw [shown, ite_self]
    · rw [if_pos ((leaves π shown).1 left)]
  · intro π spared
    rw [Json.view_removals wf]
    by_cases shown : doc.view π = Option.none
    · rw [shown, ite_self]
    · rw [if_neg (mt (leaves π shown).2 spared)]

/-! ## Queries with a list of fields -/

/-- A query finds what it would find without its projection, each document as it shows it. -/
theorem find_shown (s : Store) (q : Find) (query : FindQuery)
    (projected : query.projection = q.projection.map .obj) :
    s.find q.collection query = (s.find q.collection { query with projection := none }) >>=
      fun docs => Store.refuse (docs.mapM q.shown) := by
  cases wanted : q.projection with
  | none =>
    have whole (docs : List Json) : docs.mapM q.shown = .ok docs := by
      rw [Fallible.mapM_eq_map (g := id) fun doc _ => by rw [shown, wanted]; rfl, List.map_id]
    have same : { query with projection := none } = query := by
      rw [wanted] at projected
      rw [← show query.projection = none from projected]
    simp only [whole, same]
    cases s.find q.collection query <;> rfl
  | some spec =>
    have each : q.shown = Aggregation.projectDocument spec := by
      funext doc
      rw [shown, wanted]
    unfold Store.find
    rw [projected, wanted, each]
    cases s.select q.collection query.filter with
    | error e => rfl
    | ok docs =>
      cases query.sort with
      | none => rfl
      | some order =>
        show (Store.refuse (Aggregation.sort order docs) >>= _) =
          (Store.refuse (Aggregation.sort order docs) >>= _) >>= _
        cases Store.refuse (Aggregation.sort order docs) <;> rfl

/-- **Lists of fields.** For an accepted list in which no field lies on the way to another one, a query
finds what it would find without it, shown field by field. If a field other than the identifier is
wanted, the wanted fields are shown and nothing else, unless one of them is blocked, which fails. If
none is wanted, or only the identifier beside unwanted fields, all but the unwanted fields are shown.
The list that names the identifier as wanted and nothing else, `["_id"]`, is left out of both: the
condition on `m` keeps it from being taken for a list of unwanted fields. -/
theorem project_shows (accepted : q.project parts = .ok q') (separate : Separate parts)
    (wf : doc.WellFormed) (object : doc.isObject = true) :
    (∀ limit, ∃ query, q'.commandWithLimit limit = .find q'.collection query ∧ ∀ s : Store,
      s.find q'.collection query = (s.find q'.collection { query with projection := none }) >>=
        fun docs => Store.refuse (docs.mapM q'.shown)) ∧
    ((∃ n, n ≠ "_id" ∧ (n, true) ∈ listed parts) →
      (∃ n, Blocked parts doc n ∧ q'.shown doc = .error (.pathBlocked n)) ∨
      ∃ out, q'.shown doc = .ok out ∧ (∀ n, ¬ Blocked parts doc n) ∧ Included parts doc out) ∧
    ((∀ n, (n, true) ∈ listed parts → n = "_id" ∧ ∃ m, m ≠ "_id" ∧ (m, false) ∈ listed parts) →
      ∃ out, q'.shown doc = .ok out ∧ Excluded parts doc out) := by
  obtain ⟨unmixed, shown⟩ := of_project accepted
  refine ⟨fun limit => ⟨_, rfl, fun s => find_shown s q' _ rfl⟩, ?_, ?_⟩
  · intro some
    rw [shown doc]
    exact projectDocument_of_wanted separate wf object some fun others => unmixed ⟨some, others⟩
  · intro unwanted
    rw [shown doc]
    apply projectDocument_of_unwanted separate wf
    rintro ⟨n, other, there⟩
    exact other (unwanted n there).1

/-- Two lists for one document: of wanted fields, one of them in an array, and of unwanted ones. -/
theorem project_shows_both :
    ∃ q wanting without : Find, q.project ["name", "a.0.x"] = .ok wanting ∧
      q.project ["-a.0.x", "-b"] = .ok without ∧
      (∃ out, wanting.shown (.obj [("_id", .int 1), ("name", .str "n"),
        ("a", .arr [.obj [("x", .int 7)]]), ("b", .null)]) = .ok out ∧
        Included ["name", "a.0.x"] (.obj [("_id", .int 1), ("name", .str "n"),
          ("a", .arr [.obj [("x", .int 7)]]), ("b", .null)]) out) ∧
      ∃ out, without.shown (.obj [("_id", .int 1), ("name", .str "n"),
        ("a", .arr [.obj [("x", .int 7)]]), ("b", .null)]) = .ok out ∧
        Excluded ["-a.0.x", "-b"] (.obj [("_id", .int 1), ("name", .str "n"),
          ("a", .arr [.obj [("x", .int 7)]]), ("b", .null)]) out := by
  have wf : (Json.obj [("_id", .int 1), ("name", .str "n"), ("a", .arr [.obj [("x", .int 7)]]),
      ("b", .null)]).WellFormed := by
    have item : (Json.obj [("x", .int 7)]).WellFormed := .obj (by decide) (by simpa using .num _)
    refine .obj (by decide) ?_
    simp only [List.forall_mem_cons]
    exact ⟨.num _, .str _, .arr (by simpa using item), .null, nofun⟩
  have wantedFields : listed ["name", "a.0.x"] = [("name", true), ("a.0.x", true)] := by decide
  have unwantedFields : listed ["-a.0.x", "-b"] = [("a.0.x", false), ("b", false)] := by decide
  let q : Find := { collection := "c", filter := .obj [] }
  refine ⟨q, _, _, rfl, rfl, ?_, ?_⟩
  · have accepted : q.project ["name", "a.0.x"] = .ok _ := rfl
    have all := (project_shows accepted (by decide) wf rfl).2.1
    rcases all ⟨"name", by decide, by simp [wantedFields]⟩ with ⟨n, ⟨there, root, -⟩, -⟩ | shown
    · rw [wantedFields] at there
      simp only [List.mem_cons, Prod.mk.injEq, List.not_mem_nil, or_false, and_true] at there
      rcases there with rfl | rfl
      · exact absurd root (by decide)
      · exact absurd root (by decide)
    · obtain ⟨out, done, -, included⟩ := shown
      exact ⟨out, done, included⟩
  · have accepted : q.project ["-a.0.x", "-b"] = .ok _ := rfl
    have all := (project_shows accepted (by decide) wf rfl).2.2
    exact all fun n there => absurd there (by simp [unwantedFields])

/-- An item of an array stays although it is unwanted; an item of the identifier cannot be shown
although it is wanted. -/
theorem item_stays_or_fails :
    ∃ q without wanting : Find, q.project ["-a.0"] = .ok without ∧ q.project ["_id.0"] = .ok wanting ∧
      without.shown (.obj [("_id", .int 1), ("a", .arr [.int 7]), ("b", .int 2)]) =
        .ok (.obj [("_id", .int 1), ("a", .arr [.int 7]), ("b", .int 2)]) ∧
      (Json.obj [("_id", .int 1), ("a", .arr [.int 7]), ("b", .int 2)]).getPath? "a.0" =
        some (.int 7) ∧
      wanting.shown (.obj [("_id", .arr [.int 5])]) = .error (.pathBlocked "_id.0") := by
  let q : Find := { collection := "c", filter := .obj [] }
  refine ⟨q, _, _, rfl, rfl, ?_, rfl, ?_⟩
  · have accepted : q.project ["-a.0"] = .ok _ := rfl
    have spec : specOf ["-a.0"] = [("a.0", flag false)] := rfl
    have excluding : Aggregation.includes [("a.0", flag false)] = false := by
      simp [Aggregation.includes, keeps?_flag]
    rw [(of_project accepted).2, spec, Aggregation.projectDocument_of_excludes excluding]
    simp only [Aggregation.exclude, keeps?_flag, List.filter_cons_of_pos, BEq.rfl]
    rfl
  · have accepted : q.project ["_id.0"] = .ok _ := rfl
    have spec : specOf ["_id.0"] = [("_id.0", flag true)] := rfl
    have stops : Aggregation.includeField (.obj [("_id", .arr [.int 5])])
        (.obj [("_id", .arr [.int 5])]) "_id.0" (flag true) = .error (.pathBlocked "_id.0") := by
      rw [Aggregation.includeField, keeps?_flag]
      rfl
    rw [(of_project accepted).2, spec, Aggregation.projectDocument]
    simp only [Aggregation.includes, Aggregation.excludes, keeps?_flag, List.any_cons, List.any_nil]
    show (Aggregation.includeField _ (.obj [("_id", .arr [.int 5])]) "_id.0" (flag true) >>= _) = _
    rw [stops]
    rfl

end

end Find

end DocStore
