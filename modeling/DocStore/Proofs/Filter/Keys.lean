import DocStore.Filter.Operator
import DocStore.Proofs.Fallible

/-!
# Keys of predicates

A key is separated at its last double underscore, however many underscores the field before it ends
in (`Predicate.splitKey?_spec`), and no operator has an underscore in its suffix. So a key stands
for one field and one operator, and whatever is written for them is read back
(`Predicate.keys_decode`). `Predicate.parseKey_iff` says what becomes of every key, also of those that
are refused.
-/

namespace DocStore.Predicate

/-- A text that can be a field: it is not empty and does not begin with a dollar sign. -/
def IsField (field : String) : Prop := field ≠ "" ∧ ∀ rest, field ≠ "$" ++ rest

/-- A key has a double underscore somewhere. -/
def HasSeparator (key : String) : Prop := ∃ field suffix, key = field ++ "__" ++ suffix

/-- The texts before and after the last double underscore of a key. -/
structure SplitsLast (key field suffix : String) : Prop where
  joined : key = field ++ "__" ++ suffix
  last : ∀ f s, key = f ++ "__" ++ s → f.length ≤ field.length

/-- A key stands for a field and an operator: as a whole for a field that is compared by equality, or
with the text after its last double underscore for an operator. -/
def Names (key field : String) (op : Operator) : Prop :=
  ¬ HasSeparator key ∧ field = key ∧ op = .eq ∨ SplitsLast key field op.suffix

/-- What a key is read as. -/
inductive Reads (key : String) : Result (String × Operator) → Prop where
  | accepted {field : String} {op : Operator} (names : Names key field op) (named : IsField field) :
    Reads key (.ok (field, op))
  | unnamed {field : String} {op : Operator} (names : Names key field op)
    (nameless : ¬ IsField field) : Reads key (.error (.validation key .fieldName (.fieldName field)))
  | unknown {field suffix : String} (split : SplitsLast key field suffix)
    (none : ∀ op : Operator, op.suffix ≠ suffix) :
    Reads key (.error (.validation key .knownOperator (.operatorSuffix suffix)))

/-! ## The last separator -/

/-- A text is separated at the last double underscore, if it has one. -/
theorem splitKey?_spec (cs : List Char) :
    (∃ before after, splitKey? cs = some (before, after) ∧ cs = before ++ '_' :: '_' :: after ∧
      ∀ b a, cs = b ++ '_' :: '_' :: a → b.length ≤ before.length) ∨
    splitKey? cs = none ∧ ∀ b a, cs ≠ b ++ '_' :: '_' :: a := by
  induction cs with
  | nil => exact .inr ⟨rfl, by simp⟩
  | cons c rest ih =>
    unfold splitKey?
    rcases ih with ⟨before, after, split, rfl, last⟩ | ⟨split, whole⟩
    · refine .inl ⟨c :: before, after, by rw [split], rfl, fun b a same => ?_⟩
      cases b with
      | nil => exact Nat.zero_le _
      | cons d b => exact Nat.succ_le_succ (last b a (List.cons.inj same).2)
    · -- nothing separates the rest, so at most its first character belongs to a separator
      have shorter (b a : List Char) (same : c :: rest = b ++ '_' :: '_' :: a) :
          b = [] ∧ c = '_' ∧ rest = '_' :: a := by
        cases b with
        | nil =>
          obtain ⟨rfl, rfl⟩ := List.cons.inj same
          exact ⟨rfl, rfl, rfl⟩
        | cons d b => exact absurd (List.cons.inj same).2 (whole b a)
      rw [split]
      dsimp only
      split
      · rename_i suffix
        refine .inl ⟨[], suffix, rfl, rfl, fun b a same => ?_⟩
        obtain ⟨rfl, -⟩ := shorter b a same
        exact Nat.le_refl _
      · rename_i other
        refine .inr ⟨rfl, fun b a same => ?_⟩
        obtain ⟨-, first, second⟩ := shorter b a same
        exact other a first second

theorem toList_joined (field suffix : String) :
    (field ++ "__" ++ suffix).toList = field.toList ++ '_' :: '_' :: suffix.toList := by
  simp [String.toList_append]

theorem eq_joined {key : String} {before after : List Char}
    (same : key.toList = before ++ '_' :: '_' :: after) :
    key = String.ofList before ++ "__" ++ String.ofList after := by
  apply String.toList_inj.1
  rw [toList_joined, same, String.toList_ofList, String.toList_ofList]

theorem splitKey?_key (key : String) :
    (∃ before after, splitKey? key.toList = some (before, after) ∧
      SplitsLast key (String.ofList before) (String.ofList after)) ∨
    splitKey? key.toList = none ∧ ¬ HasSeparator key := by
  rcases splitKey?_spec key.toList with ⟨before, after, split, same, last⟩ | ⟨split, whole⟩
  · refine .inl ⟨before, after, split, eq_joined same, fun f s joined => ?_⟩
    have shorter := last f.toList s.toList (by rw [joined, toList_joined])
    simpa only [String.length_toList, String.length_ofList] using shorter
  · refine .inr ⟨split, ?_⟩
    rintro ⟨f, s, joined⟩
    exact whole f.toList s.toList (by rw [joined, toList_joined])

/-- A key has one last separator. -/
theorem SplitsLast.unique {key f s f' s' : String} (h : SplitsLast key f s)
    (h' : SplitsLast key f' s') : f = f' ∧ s = s' := by
  have same := toList_joined f s
  rw [← h.joined, h'.joined, toList_joined] at same
  have length : f'.toList.length = f.toList.length := by
    rw [String.length_toList, String.length_toList]
    exact Nat.le_antisymm (h.last f' s' h'.joined) (h'.last f s h.joined)
  obtain ⟨before, after⟩ := List.append_inj same length
  exact ⟨(String.toList_inj.1 before).symm, (String.toList_inj.1 (by simpa using after)).symm⟩

theorem SplitsLast.hasSeparator {key f s : String} (h : SplitsLast key f s) : HasSeparator key :=
  ⟨f, s, h.joined⟩

/-- The last separator is the one that no underscore follows. -/
theorem splitsLast_joined (field : String) {suffix : String} (free : '_' ∉ suffix.toList) :
    SplitsLast (field ++ "__" ++ suffix) field suffix := by
  refine ⟨rfl, fun f s same => Nat.le_of_not_lt fun longer => free ?_⟩
  have chars := congrArg String.toList same
  rw [toList_joined, toList_joined] at chars
  rcases List.append_eq_append_iff.1 chars with ⟨between, reach, tail⟩ | ⟨between, reach, -⟩
  · -- a later separator would have an underscore after the two of this one
    match between with
    | [] =>
      have same := congrArg List.length reach
      rw [List.append_nil, String.length_toList, String.length_toList] at same
      omega
    | [c] =>
      obtain ⟨-, tail⟩ := List.cons.inj tail
      obtain ⟨-, tail⟩ := List.cons.inj tail
      rw [tail]
      exact List.mem_cons_self
    | c :: d :: between =>
      obtain ⟨-, tail⟩ := List.cons.inj tail
      obtain ⟨-, tail⟩ := List.cons.inj tail
      rw [tail]
      exact List.mem_append_right _ List.mem_cons_self
  · have shorter := congrArg List.length reach
    rw [List.length_append, String.length_toList, String.length_toList] at shorter
    omega

/-! ## Fields and operators -/

theorem underscore_not_mem_suffix (op : Operator) : '_' ∉ op.suffix.toList := by
  cases op <;> decide

theorem ofSuffix?_suffix (op : Operator) : Operator.ofSuffix? op.suffix = some op := by
  cases op <;> rfl

theorem ofSuffix?_eq_some {suffix : String} {op : Operator} :
    Operator.ofSuffix? suffix = some op ↔ op.suffix = suffix := by
  constructor
  · intro found
    simpa using List.find?_some found
  · rintro rfl
    exact ofSuffix?_suffix op

/-- The check of names is right: a field has one that does not look like an operator. -/
theorem isFieldName_iff {field : String} : isFieldName field = true ↔ IsField field := by
  have operator : Text.isOperatorKey field = true ↔ ∃ rest, field = "$" ++ rest := by
    rw [Text.isOperatorKey, beq_iff_eq, List.head?_eq_some_iff]
    constructor
    · rintro ⟨rest, chars⟩
      refine ⟨String.ofList rest, String.toList_inj.1 ?_⟩
      simp [String.toList_append, chars]
    · rintro ⟨rest, rfl⟩
      exact ⟨rest.toList, String.toList_append⟩
  rw [isFieldName, Bool.and_eq_true, Bool.not_eq_true', Bool.not_eq_true', IsField, ne_eq,
    ← Bool.not_eq_true (Text.isOperatorKey field), operator, not_exists, ← String.isEmpty_iff,
    Bool.not_eq_true]

/-! ## What a key is read as -/

theorem Names.unique {key field field' : String} {op op' : Operator} (h : Names key field op)
    (h' : Names key field' op') : field = field' ∧ op = op' := by
  rcases h with ⟨whole, rfl, rfl⟩ | split <;> rcases h' with ⟨whole', rfl, rfl⟩ | split'
  · exact ⟨rfl, rfl⟩
  · exact absurd split'.hasSeparator whole
  · exact absurd split.hasSeparator whole'
  · obtain ⟨same, suffix⟩ := split.unique split'
    exact ⟨same, Option.some.inj ((ofSuffix?_eq_some.2 suffix).symm.trans (ofSuffix?_suffix op'))⟩

/-- A key that ends in an unknown suffix stands for nothing. -/
theorem SplitsLast.not_names {key field field' suffix : String} {op : Operator}
    (split : SplitsLast key field suffix) (unknown : ∀ op : Operator, op.suffix ≠ suffix) :
    ¬ Names key field' op := by
  rintro (⟨whole, -, -⟩ | split')
  · exact whole split.hasSeparator
  · exact unknown op (split'.unique split).2

theorem reads_parseKey (key : String) : Reads key (parseKey key) := by
  have checked {field : String} {op : Operator} (names : Names key field op) :
      Reads key (if isFieldName field then pure (field, op)
        else throw (.validation key .fieldName (.fieldName field))) := by
    split
    · rename_i proper
      exact .accepted names (isFieldName_iff.1 proper)
    · rename_i improper
      exact .unnamed names fun named => improper (isFieldName_iff.2 named)
  unfold parseKey
  rcases splitKey?_key key with ⟨before, after, found, split⟩ | ⟨found, whole⟩
  · rw [found]
    dsimp only
    cases known : Operator.ofSuffix? (String.ofList after) with
    | none =>
      refine .unknown split fun op same => ?_
      rw [ofSuffix?_eq_some.2 same] at known
      cases known
    | some op =>
      rw [← ofSuffix?_eq_some.1 known] at split
      exact checked (.inr split)
  · rw [found]
    exact checked (.inl ⟨whole, rfl, rfl⟩)

/-- A key means one thing at most. -/
theorem Reads.unique {key : String} {r r' : Result (String × Operator)} (h : Reads key r)
    (h' : Reads key r') : r = r' := by
  cases h with
  | accepted names named =>
    cases h' with
    | accepted names' _ =>
      obtain ⟨rfl, rfl⟩ := names.unique names'
      rfl
    | unnamed names' nameless =>
      obtain ⟨rfl, rfl⟩ := names.unique names'
      exact absurd named nameless
    | unknown split none => exact absurd names (split.not_names none)
  | unnamed names nameless =>
    cases h' with
    | accepted names' named =>
      obtain ⟨rfl, rfl⟩ := names.unique names'
      exact absurd named nameless
    | unnamed names' _ =>
      obtain ⟨rfl, rfl⟩ := names.unique names'
      rfl
    | unknown split none => exact absurd names (split.not_names none)
  | unknown split none =>
    cases h' with
    | accepted names' _ => exact absurd names' (split.not_names none)
    | unnamed names' _ => exact absurd names' (split.not_names none)
    | unknown split' _ =>
      obtain ⟨rfl, rfl⟩ := split.unique split'
      rfl

/-- **What becomes of a key**: it is read as the field and the operator that it stands for, or refused
for the one or for the other. -/
theorem parseKey_iff {key : String} {r : Result (String × Operator)} :
    parseKey key = r ↔ Reads key r := by
  constructor
  · rintro rfl
    exact reads_parseKey key
  · exact (reads_parseKey key).unique

/-- A key is accepted if it names a field and an operator. -/
theorem parseKey_eq_ok {key field : String} {op : Operator} :
    parseKey key = .ok (field, op) ↔ Names key field op ∧ IsField field := by
  rw [parseKey_iff]
  constructor
  · rintro (⟨names, named⟩ | _ | _)
    exact ⟨names, named⟩
  · rintro ⟨names, named⟩
    exact .accepted names named

theorem parse_eq_ok {key : String} {value : Json} {p : Predicate} :
    parse key value = .ok p ↔ p.value = value ∧ Names key p.field p.operator ∧ IsField p.field := by
  rw [parse, Fallible.bind_eq_ok]
  constructor
  · rintro ⟨⟨field, op⟩, read, made⟩
    cases made
    exact ⟨rfl, parseKey_eq_ok.1 read⟩
  · rintro ⟨rfl, read⟩
    exact ⟨(p.field, p.operator), parseKey_eq_ok.2 read, rfl⟩

theorem names_joined (field : String) (op : Operator) : Names (field ++ "__" ++ op.suffix) field op :=
  .inr (splitsLast_joined field (underscore_not_mem_suffix op))

/-- A key that is written for a field and an operator is read back. -/
theorem parseKey_append {field : String} (proper : isFieldName field = true) (op : Operator) :
    parseKey (field ++ "__" ++ op.suffix) = .ok (field, op) :=
  parseKey_eq_ok.2 ⟨names_joined field op, isFieldName_iff.1 proper⟩

/-- **A key stands for one field and one operator.** Whatever text can be a field, what is written for
it and an operator is read back as the two. A key is accepted exactly if it has no separator and can be
a field, which is then compared by equality, or if the text after its last separator is the suffix of an
operator and the text before it can be a field; so an accepted key with a separator is its parts,
joined. -/
theorem keys_decode :
    (∀ (field : String) (op : Operator) (value : Json), IsField field →
      parse (field ++ "__" ++ op.suffix) value = .ok ⟨field, op, value⟩) ∧
    ∀ (key : String) (value : Json) (p : Predicate),
      (parse key value = .ok p ↔ p.value = value ∧
        (¬ HasSeparator key ∧ IsField key ∧ p.field = key ∧ p.operator = .eq ∨
          ∃ field suffix, SplitsLast key field suffix ∧ IsField field ∧
            p.field = field ∧ p.operator.suffix = suffix)) ∧
      (parse key value = .ok p → HasSeparator key → p.field ++ "__" ++ p.operator.suffix = key) := by
  refine ⟨fun field op value named => ?_, fun key value p => ⟨?_, fun read separated => ?_⟩⟩
  · exact parse_eq_ok.2 ⟨rfl, names_joined field op, named⟩
  · rw [parse_eq_ok]
    refine and_congr_right fun _ => ?_
    constructor
    · rintro ⟨⟨whole, same, plain⟩ | split, named⟩
      · exact .inl ⟨whole, same ▸ named, same, plain⟩
      · exact .inr ⟨_, _, split, named, rfl, rfl⟩
    · rintro (⟨whole, named, same, plain⟩ | ⟨_, _, split, named, rfl, rfl⟩)
      · exact ⟨.inl ⟨whole, same, plain⟩, same ▸ named⟩
      · exact ⟨.inr split, named⟩
  · obtain ⟨-, ⟨whole, -, -⟩ | split, -⟩ := parse_eq_ok.1 read
    · exact absurd separated whole
    · exact split.joined.symm

/-- A field that ends in underscores and has a separator of its own. -/
theorem keys_decode_underscores :
    IsField "created__at_" ∧
      parse "created__at___lt" (.int 5) = .ok ⟨"created__at_", .lt, .int 5⟩ := by
  have named : IsField "created__at_" := by
    refine isFieldName_iff.1 ?_
    decide
  exact ⟨named, keys_decode.1 "created__at_" .lt (.int 5) named⟩

end DocStore.Predicate
