import DocStore.Proofs.Fallible
import DocStore.Proofs.Schema.SerialForm
import DocStore.Schema.PatternCache

/-!
# When a pattern is compiled cannot be seen

A regular expression that is kept is that of the pattern (`CachedType.Consistent`): building sees to
it, and checks only add what they compiled. So a value is validated as if the pattern were compiled
each time (`CachedType.validateAll_eq`), and a type that was written and read back, which has lost its
regular expression, validates like the one that was written (`CachedType.json_round_trip`).
-/

namespace DocStore

namespace CachedType

variable {t : CachedType}

/-- A regular expression that is kept is the one that the pattern of the type is compiled to. -/
def Consistent (t : CachedType) : Prop :=
  ∀ r ∈ t.compiled?, ∃ source, t.type.constraints.pattern = some source ∧
    t.type.compilePattern source = .ok r

/-! ## Validation -/

/-- The regular expression of the pattern as it is compiled each time. -/
def current (t : FieldType) : Result (Option Regex) :=
  match t.constraints.pattern with
  | none => .ok none
  | some source => (t.compilePattern source).map some

/-- The pattern that is looked up is compiled as it would be now, and the type stays what it is. -/
theorem compiledPattern_eq (h : t.Consistent) : t.compiledPattern.1 = current t.type ∧
    t.compiledPattern.2.type = t.type ∧ t.compiledPattern.2.Consistent := by
  obtain ⟨type, compiled⟩ := t
  unfold compiledPattern current
  cases found : type.constraints.pattern with
  | none => exact ⟨rfl, rfl, h⟩
  | some source =>
    cases compiled with
    | some r =>
      obtain ⟨source', same, ok⟩ := h r rfl
      obtain rfl : source = source' := Option.some.inj (found.symm.trans same)
      have ok : type.compilePattern source = .ok r := ok
      dsimp only
      rw [ok]
      exact ⟨rfl, rfl, h⟩
    | none =>
      dsimp only
      cases ok : type.compilePattern source with
      | ok r =>
        refine ⟨rfl, rfl, ?_⟩
        rintro _ ⟨⟩
        exact ⟨source, found, ok⟩
      | error e => exact ⟨rfl, rfl, h⟩

theorem checkPattern_eq (t : FieldType) (field : String) (v : Json) :
    t.checkPattern field v = (current t).bind fun r => checkMatch ⟨t, none⟩ field r v := by
  unfold FieldType.checkPattern current
  cases t.constraints.pattern with
  | none => rfl
  | some source =>
    dsimp only
    cases t.compilePattern source with
    | error e => rfl
    | ok r =>
      cases v with
      | _ => rfl

theorem check_eq (h : t.Consistent) (field : String) (v : Json) :
    (t.check field v).1 = t.type.check field v ∧ (t.check field v).2.type = t.type ∧
      (t.check field v).2.Consistent := by
  unfold check FieldType.check
  cases t.type.checkLength field v with
  | error e => exact ⟨rfl, rfl, h⟩
  | ok _ =>
    dsimp only
    cases t.type.checkRange field v with
    | error e => exact ⟨rfl, rfl, h⟩
    | ok _ =>
      obtain ⟨found, same, still⟩ := compiledPattern_eq h
      refine ⟨?_, same, still⟩
      dsimp only
      rw [checkPattern_eq, found]
      unfold checkMatch
      rw [same]
      rfl

/-- **A value is validated as if the pattern were compiled now**, and the type stays what it is. -/
theorem validate_eq (h : t.Consistent) (field : String) (v : Json) :
    (t.validate field v).1 = t.type.validate field v ∧ (t.validate field v).2.type = t.type ∧
      (t.validate field v).2.Consistent := by
  unfold validate FieldType.validate
  cases t.type.kind.coerce field v with
  | error e => exact ⟨rfl, rfl, h⟩
  | ok w =>
    obtain ⟨checked, same, still⟩ := check_eq h field w
    refine ⟨?_, same, still⟩
    dsimp only
    rw [checked]
    show (t.type.check field w).map (fun _ => w) = (t.type.check field w).bind fun _ => .ok w
    cases t.type.check field w with
    | error e => rfl
    | ok _ => rfl

/-- **Nothing that was validated before is seen in what comes after.** -/
theorem validateAll_eq (h : t.Consistent) (uses : List (String × Json)) :
    t.validateAll uses = uses.map fun use => t.type.validate use.1 use.2 := by
  induction uses generalizing t with
  | nil => rfl
  | cons use rest ih =>
    obtain ⟨field, v⟩ := use
    obtain ⟨result, same, still⟩ := validate_eq h field v
    rw [validateAll, List.map_cons]
    dsimp only
    rw [result, ih still, same]

/-! ## Building -/

/-- The field types that can be built, by name and kind or as a standard type, with bounds and patterns
from then on, and used in between. -/
inductive Built : CachedType → Prop
  | new (name : String) (kind : Kind) : Built (new name kind)
  | array (element : Kind) : Built { type := .array element }
  | standard {names : List String} {type : FieldType} (known : (names, type) ∈ FieldType.standard) :
    Built { type }
  | length {t : CachedType} {min max : Option Nat} (built : Built t) (min_fits : ∀ n ∈ min, FitsNat64 n)
    (max_fits : ∀ n ∈ max, FitsNat64 n) : Built (t.length min max)
  | range {t : CachedType} (built : Built t) (min max : Option Binary64) : Built (t.range min max)
  | pattern {t t' : CachedType} {pattern : String} (built : Built t) (h : t.pattern pattern = .ok t') :
    Built t'
  | used {t : CachedType} (built : Built t) (field : String) (v : Json) :
    Built (t.validate field v).2

theorem consistent_of_none {type : FieldType} : Consistent { type } := by
  rintro _ ⟨⟩

theorem pattern_eq_ok {t' : CachedType} {pattern : String} (h : t.pattern pattern = .ok t') :
    ∃ r, t.type.compilePattern pattern = .ok r ∧ t' = ⟨t.type.withPattern pattern, some r⟩ := by
  obtain ⟨r, compiled, h⟩ := Fallible.bind_eq_ok.1 h
  exact ⟨r, compiled, (Except.ok.inj h).symm⟩

/-- A type that is built keeps the regular expression of its pattern, or none. -/
theorem Built.consistent (h : t.Built) : t.Consistent := by
  induction h with
  | new => exact consistent_of_none
  | array => exact consistent_of_none
  | standard => exact consistent_of_none
  | length _ _ _ ih => exact ih
  | range _ _ _ ih => exact ih
  | pattern _ h _ =>
    obtain ⟨r, compiled, rfl⟩ := pattern_eq_ok h
    rintro _ ⟨⟩
    exact ⟨_, rfl, compiled⟩
  | used _ field v ih => exact (validate_eq ih field v).2.2

theorem writable_standard : ∀ entry ∈ FieldType.standard, entry.2.constraints.Writable := by
  have lengths : ∀ entry ∈ FieldType.standard,
      (∀ n ∈ entry.2.constraints.minLength, FitsNat64 n) ∧
        ∀ n ∈ entry.2.constraints.maxLength, FitsNat64 n := by
    decide
  intro entry known
  exact ⟨(lengths entry known).1, (lengths entry known).2⟩

/-- The lengths of a type that is built are numbers of 64 bits. -/
theorem Built.writable (h : t.Built) : t.type.constraints.Writable := by
  induction h with
  | new => exact ⟨by rintro _ ⟨⟩, by rintro _ ⟨⟩⟩
  | array => exact ⟨by rintro _ ⟨⟩, by rintro _ ⟨⟩⟩
  | standard known => exact writable_standard _ known
  | length _ min_fits max_fits _ => exact ⟨min_fits, max_fits⟩
  | range _ _ _ ih => exact ⟨ih.minLength, ih.maxLength⟩
  | pattern _ h ih =>
    obtain ⟨r, -, rfl⟩ := pattern_eq_ok h
    exact ⟨ih.minLength, ih.maxLength⟩
  | used built field v ih =>
    rw [(validate_eq built.consistent field v).2.1]
    exact ih

/-- **Field types survive their JSON form.** A type that was built is read back as the same type,
without its regular expression, and whatever is validated with the one and with the other, one value
after the other, comes out the same, values and errors: what validation makes of each alone. -/
theorem json_round_trip (h : t.Built) : ∃ d, ofJson? t.toJson = some d ∧ d.type = t.type ∧
    d.compiled? = none ∧ ∀ uses, d.validateAll uses = t.validateAll uses ∧
      t.validateAll uses = uses.map fun use => t.type.validate use.1 use.2 := by
  refine ⟨{ type := t.type }, ?_, rfl, rfl, ?_⟩
  · rw [ofJson?, toJson, FieldType.ofJson?_toJson h.writable]
    rfl
  · intro uses
    rw [validateAll_eq consistent_of_none, validateAll_eq h.consistent]
    exact ⟨rfl, rfl⟩

/-- Codes with a pattern that is compiled when it is set, and anew by the type that was read back. -/
theorem json_round_trip_codes : ∃ t d, (new "code" .string).pattern "^b+$" = .ok t ∧
    t.compiled?.isSome ∧ ofJson? t.toJson = some d ∧ d.compiled? = none ∧
      d.validateAll [("code", .str "bb"), ("code", .str "a")] =
        [.ok (.str "bb"), .error (.validation "code" (.format "code") (.value (.str "a")))] := by
  obtain ⟨r, compiles⟩ : ∃ r, (new "code" .string).type.compilePattern "^b+$" = .ok r := ⟨_, rfl⟩
  let t : CachedType := ⟨(new "code" .string).type.withPattern "^b+$", some r⟩
  have set : (new "code" .string).pattern "^b+$" = .ok t := by
    rw [pattern, compiles]
    rfl
  obtain ⟨d, back, -, lost, same⟩ := json_round_trip (.pattern (.new "code" .string) set)
  refine ⟨t, d, set, rfl, back, lost, ?_⟩
  rw [(same _).1, (same _).2]
  rfl

end CachedType

end DocStore
