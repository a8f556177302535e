import DocStore.Client.Collection
import DocStore.Proofs.Fallible
import DocStore.Proofs.Json.Decoding

/-!
# Commands survive their wire form

The value that a command is written as is read as the same command, for every command that was read
and for every command that is built (`Command.wire_round_trip`). What is written for a command that was
read is the normal form of what stood there (`Command.normalForm`): the keys of its operation in
their order, defaults in the place of keys that were missing, optional keys that were null left out,
and no other keys.
-/

namespace DocStore

/-- A query for documents whose optional documents are not null, with numbers of 64 bits. -/
structure FindQuery.WellFormed (q : FindQuery) : Prop where
  sort : ∀ v ∈ q.sort, v ≠ .null
  projection : ∀ v ∈ q.projection, v ≠ .null
  skip : FitsNat64 q.skip
  limit : ∀ n ∈ q.limit, FitsNat64 n

namespace Command

/-- A command that can stand on the wire. -/
def WellFormed : Command → Prop
  | .find _ q => q.WellFormed
  | _ => True

variable {c : Command} {j v : Json}

/-! ## Reading what was written -/

theorem ofJson?_toJson_eq (c : Command) : ofJson? c.toJson = ofRecord? c.name c.toJson := rfl

theorem toJson_find (collection : String) (q : FindQuery) :
    (Command.find collection q).toJson = .obj (("op", .str "find") ::
      ("collection", .str collection) :: ("filter", q.filter) ::
        ((q.sort.map fun v => ("sort", id v)).toList ++
          ((q.projection.map fun v => ("projection", id v)).toList ++
            ("skip", .nat q.skip) :: ((q.limit.map fun n => ("limit", Json.nat n)).toList ++ [])))) := by
  simp [toJson, name, Command.collection]

/-- The optional keys of a query that are missing are found missing, among those that are not. -/
theorem recordFields?_find (collection : String) (q : FindQuery) :
    (Command.find collection q).toJson.recordFields?
      ["collection", "filter", "sort", "projection", "skip", "limit"] =
        some [some (.str collection), some q.filter, q.sort, q.projection, some (.nat q.skip),
          q.limit.map .nat] := by
  rw [toJson_find]
  simp only [Json.recordFields?, List.map_cons, List.map_nil, Fields.get?_cons,
    Fields.get?_optional_append]
  simp [Fields.get?]

/-- **A command that can stand on the wire is read back.** -/
theorem ofJson?_toJson (h : c.WellFormed) : ofJson? c.toJson = some c := by
  rw [ofJson?_toJson_eq]
  cases c with
  | find collection q =>
    obtain ⟨sort, projection, skip, limit⟩ := h
    have document (v : Option Json) (present : ∀ w ∈ v, w ≠ .null) :
        Json.optional? some v = some v := by
      have read := @Json.optional?_map _ some id v (fun _ _ => rfl) present
      rwa [Option.map_id] at read
    have limit_read : Json.optional? Json.asNat64? (q.limit.map .nat) = some q.limit :=
      Json.optional?_map (fun n mem => Json.asNat64?_nat (limit n mem)) fun n _ => by simp [Json.nat]
    simp only [name, ofRecord?, recordFields?_find]
    simp [Json.required?, Json.text?, Json.defaulted?, document q.sort sort,
      document q.projection projection, limit_read, Json.asNat64?_nat skip]
  | insert | update | delete | count | distinct | aggregate | watch => rfl

/-! ## Writing what was read -/

section

variable {key : String} {value : Option Json}

theorem settle_text {s : String} (h : Json.required? Json.text? value = some s) :
    Presence.required.settle key value = [(key, .str s)] :=
  Presence.settle_required (fun _ _ => Json.text?_eq_some.1) h

theorem settle_items {xs : List Json} (h : Json.required? Json.items? value = some xs) :
    Presence.required.settle key value = [(key, .arr xs)] :=
  Presence.settle_required (fun _ _ => Json.items?_eq_some.1) h

theorem settle_value {v : Json} (h : value = some v) :
    Presence.required.settle key value = [(key, v)] := by
  rw [h]
  rfl

theorem settle_flag {default b : Bool} (h : Json.defaulted? default Json.asBool? value = some b) :
    (Presence.defaulted (.bool default)).settle key value = [(key, .bool b)] :=
  Presence.settle_defaulted (fun _ _ => Json.asBool?_eq_some.1) h

theorem settle_stages {xs : List Json} (h : Json.defaulted? [] Json.items? value = some xs) :
    (Presence.defaulted (.arr [])).settle key value = [(key, .arr xs)] :=
  Presence.settle_defaulted (fun _ _ => Json.items?_eq_some.1) h

theorem settle_skip {n : Nat} (h : Json.defaulted? 0 Json.asNat64? value = some n) :
    (Presence.defaulted (.nat 0)).settle key value = [(key, .nat n)] :=
  Presence.settle_defaulted (fun _ _ read => (Json.asNat64?_eq_some.1 read).1) h

theorem settle_document {v : Option Json} (h : Json.optional? some value = some v) :
    Presence.optional.settle key value = (v.map (key, ·)).toList :=
  Presence.settle_optional (fun _ _ => Option.some.inj) h

theorem settle_limit {n : Option Nat} (h : Json.optional? Json.asNat64? value = some n) :
    Presence.optional.settle key value = (n.map fun n => (key, Json.nat n)).toList :=
  Presence.settle_optional (fun _ _ read => (Json.asNat64?_eq_some.1 read).1) h

theorem present_of_document {v : Option Json} (h : Json.optional? some value = some v) :
    ∀ w ∈ v, w ≠ .null := by
  unfold Json.optional? at h
  split at h
  · cases h
    simp
  · cases h
    simp
  · rename_i w other
    cases h
    rintro _ ⟨⟩ rfl
    exact other rfl

theorem fits_of_skip {n : Nat} (h : Json.defaulted? 0 Json.asNat64? value = some n) :
    FitsNat64 n := by
  cases value with
  | none =>
    cases h
    decide
  | some v => exact (Json.asNat64?_eq_some.1 h).2

/-- A limit that is read has 64 bits. -/
theorem fits_of_limit {n : Option Nat} (h : Json.optional? Json.asNat64? value = some n) :
    ∀ m ∈ n, FitsNat64 m := by
  unfold Json.optional? at h
  split at h
  · cases h
    simp
  · cases h
    simp
  · obtain ⟨m, read, rfl⟩ := Option.map_eq_some_iff.1 h
    rintro _ ⟨⟩
    exact (Json.asNat64?_eq_some.1 read).2

end

/-- The keys of an operation, in the order in which they are written. -/
def parts : String → List (String × Presence)
  | "insert" => [("collection", .required), ("documents", .required),
      ("ordered", .defaulted (.bool true))]
  | "update" => [("collection", .required), ("filter", .required), ("update", .required),
      ("multi", .defaulted (.bool false))]
  | "delete" => [("collection", .required), ("filter", .required),
      ("multi", .defaulted (.bool false))]
  | "find" => [("collection", .required), ("filter", .required), ("sort", .optional),
      ("projection", .optional), ("skip", .defaulted (.nat 0)), ("limit", .optional)]
  | "count" => [("collection", .required), ("filter", .required)]
  | "distinct" => [("collection", .required), ("field", .required), ("filter", .required)]
  | "aggregate" => [("collection", .required), ("pipeline", .required)]
  | "watch" => [("collection", .required), ("pipeline", .defaulted (.arr []))]
  | _ => []

/-- What an operation and the values under its keys are written as. -/
def normalForm (op : String) (values : List (Option Json)) : Json :=
  .obj (("op", .str op) ::
    (List.zipWith (fun part value => part.2.settle part.1 value) (parts op) values).flatten)

/-- **What a record is read as is written as its normal form**, and can stand on the wire. -/
theorem ofRecord?_eq_some {op : String} (h : ofRecord? op v = some c) :
    c.WellFormed ∧ c.name = op ∧ ∃ values,
      v.recordFields? ((parts op).map (·.1)) = some values ∧ c.toJson = normalForm op values := by
  unfold ofRecord? at h
  split at h
  · obtain ⟨values, fields, h⟩ := Option.bind_eq_some_iff.1 h
    split at h
    · obtain ⟨_, collection, h⟩ := Option.bind_eq_some_iff.1 h
      obtain ⟨_, documents, h⟩ := Option.bind_eq_some_iff.1 h
      obtain ⟨_, ordered, h⟩ := Option.bind_eq_some_iff.1 h
      cases h
      refine ⟨trivial, rfl, _, fields, ?_⟩
      simp only [normalForm, parts, List.zipWith, settle_text collection, settle_items documents,
        settle_flag ordered]
      rfl
    · cases h
  · obtain ⟨values, fields, h⟩ := Option.bind_eq_some_iff.1 h
    split at h
    · obtain ⟨_, collection, h⟩ := Option.bind_eq_some_iff.1 h
      obtain ⟨_, filter, h⟩ := Option.bind_eq_some_iff.1 h
      obtain ⟨_, changes, h⟩ := Option.bind_eq_some_iff.1 h
      obtain ⟨_, multi, h⟩ := Option.bind_eq_some_iff.1 h
      cases h
      refine ⟨trivial, rfl, _, fields, ?_⟩
      simp only [normalForm, parts, List.zipWith, settle_text collection, settle_value filter,
        settle_value changes, settle_flag multi]
      rfl
    · cases h
  · obtain ⟨values, fields, h⟩ := Option.bind_eq_some_iff.1 h
    split at h
    · obtain ⟨_, collection, h⟩ := Option.bind_eq_some_iff.1 h
      obtain ⟨_, filter, h⟩ := Option.bind_eq_some_iff.1 h
      obtain ⟨_, multi, h⟩ := Option.bind_eq_some_iff.1 h
      cases h
      refine ⟨trivial, rfl, _, fields, ?_⟩
      simp only [normalForm, parts, List.zipWith, settle_text collection, settle_value filter,
        settle_flag multi]
      rfl
    · cases h
  · obtain ⟨values, fields, h⟩ := Option.bind_eq_some_iff.1 h
    split at h
    · obtain ⟨_, collection, h⟩ := Option.bind_eq_some_iff.1 h
      obtain ⟨_, filter, h⟩ := Option.bind_eq_some_iff.1 h
      obtain ⟨_, sort, h⟩ := Option.bind_eq_some_iff.1 h
      obtain ⟨_, projection, h⟩ := Option.bind_eq_some_iff.1 h
      obtain ⟨_, skip, h⟩ := Option.bind_eq_some_iff.1 h
      obtain ⟨_, limit, h⟩ := Option.bind_eq_some_iff.1 h
      cases h
      refine ⟨⟨present_of_document sort, present_of_document projection, fits_of_skip skip,
        fits_of_limit limit⟩, rfl, _, fields, ?_⟩
      simp only [normalForm, parts, List.zipWith, settle_text collection, settle_value filter,
        settle_document sort, settle_document projection, settle_skip skip, settle_limit limit]
      rw [toJson_find]
      rfl
    · cases h
  · obtain ⟨values, fields, h⟩ := Option.bind_eq_some_iff.1 h
    split at h
    · obtain ⟨_, collection, h⟩ := Option.bind_eq_some_iff.1 h
      obtain ⟨_, filter, h⟩ := Option.bind_eq_some_iff.1 h
      cases h
      refine ⟨trivial, rfl, _, fields, ?_⟩
      simp only [normalForm, parts, List.zipWith, settle_text collection, settle_value filter]
      rfl
    · cases h
  · obtain ⟨values, fields, h⟩ := Option.bind_eq_some_iff.1 h
    split at h
    · obtain ⟨_, collection, h⟩ := Option.bind_eq_some_iff.1 h
      obtain ⟨_, field, h⟩ := Option.bind_eq_some_iff.1 h
      obtain ⟨_, filter, h⟩ := Option.bind_eq_some_iff.1 h
      cases h
      refine ⟨trivial, rfl, _, fields, ?_⟩
      simp only [normalForm, parts, List.zipWith, settle_text collection, settle_text field,
        settle_value filter]
      rfl
    · cases h
  · obtain ⟨values, fields, h⟩ := Option.bind_eq_some_iff.1 h
    split at h
    · obtain ⟨_, collection, h⟩ := Option.bind_eq_some_iff.1 h
      obtain ⟨_, pipeline, h⟩ := Option.bind_eq_some_iff.1 h
      cases h
      refine ⟨trivial, rfl, _, fields, ?_⟩
      simp only [normalForm, parts, List.zipWith, settle_text collection, settle_items pipeline]
      rfl
    · cases h
  · obtain ⟨values, fields, h⟩ := Option.bind_eq_some_iff.1 h
    split at h
    · obtain ⟨_, collection, h⟩ := Option.bind_eq_some_iff.1 h
      obtain ⟨_, pipeline, h⟩ := Option.bind_eq_some_iff.1 h
      cases h
      refine ⟨trivial, rfl, _, fields, ?_⟩
      simp only [normalForm, parts, List.zipWith, settle_text collection, settle_stages pipeline]
      rfl
    · cases h
  · cases h

/-- The normal form of a value that a command is read from: an object with the operation under
`op`, or an array that starts with it. -/
def normalize? : Json → Option Json
  | .obj fs => do
    let op ← (← Fields.get? fs "op").text?
    pure (normalForm op (← (Json.obj fs).recordFields? ((parts op).map (·.1))))
  | .arr (op :: rest) => do
    let op ← op.text?
    pure (normalForm op (← (Json.arr rest).recordFields? ((parts op).map (·.1))))
  | _ => none

/-- What is read is well-formed, and its record is the one that was given, in normal form. -/
theorem ofJson?_eq_some (h : ofJson? j = some c) :
    c.WellFormed ∧ normalize? j = some c.toJson := by
  unfold ofJson? at h
  split at h
  · rename_i fs
    obtain ⟨tag, found, h⟩ := Option.bind_eq_some_iff.1 h
    obtain ⟨op, text, h⟩ := Option.bind_eq_some_iff.1 h
    obtain ⟨sound, rfl, values, fields, written⟩ := ofRecord?_eq_some h
    refine ⟨sound, ?_⟩
    simp only [normalize?, found, Option.bind_eq_bind, Option.bind_some, text, fields, written]
    rfl
  · obtain ⟨op, text, h⟩ := Option.bind_eq_some_iff.1 h
    obtain ⟨sound, rfl, values, fields, written⟩ := ofRecord?_eq_some h
    refine ⟨sound, ?_⟩
    simp only [normalize?, Option.bind_eq_bind, Option.bind_some, text, fields, written]
    rfl
  · cases h

end Command

/-! ## Commands that are built -/

/-- The queries for documents that can be built, from a filter of a collection on. -/
inductive Find.Built : Find → Prop
  | find {c : Collection} {f : Filter} {q : Find} (h : c.find f = .ok q) : Built q
  | sortBy {q q' : Find} {keys : List (String × Int)} (built : Built q) (h : q.sortBy keys = .ok q') :
    Built q'
  | sortByText {q q' : Find} {order : String} (built : Built q) (h : q.sortByText order = .ok q') :
    Built q'
  | project {q q' : Find} {parts : List String} (built : Built q) (h : q.project parts = .ok q') :
    Built q'
  | skipping {q : Find} {n : Nat} (built : Built q) (fits : FitsNat64 n) : Built (q.skipping n)
  | limitedTo {q : Find} {n : Nat} (built : Built q) (fits : FitsNat64 n) : Built (q.limitedTo n)

/-- The commands that can be built: those of a collection, and those of its queries. -/
inductive Command.Built : Command → Prop
  | insertOne {c : Collection} {doc : Json} {ids ids' : IdSupply} {command : Command}
    (h : c.insertOne doc ids = .ok (command, ids')) : Built command
  | insertMany {c : Collection} {docs : List Json} {ids ids' : IdSupply} {command : Command}
    (h : c.insertMany docs ids = .ok (command, ids')) : Built command
  | update {c : Collection} {f : Filter} {changes : Json} {multi : Bool} {command : Command}
    (h : c.update f changes multi = .ok command) : Built command
  | delete {c : Collection} {f : Filter} {multi : Bool} {command : Command}
    (h : c.delete f multi = .ok command) : Built command
  | count {c : Collection} {f : Filter} {command : Command} (h : c.count f = .ok command) :
    Built command
  | aggregate (c : Collection) (p : Pipeline) : Built (c.aggregate p)
  | watch (c : Collection) (p : Option Pipeline) : Built (c.watch p)
  | find {q : Find} (built : q.Built) : Built q.command
  | first {q : Find} (built : q.Built) : Built q.firstCommand
  | countFound {q : Find} (built : q.Built) : Built q.countCommand
  | distinct {q : Find} (built : q.Built) (field : String) : Built (q.distinctCommand field)

/-- The numbers of a query that is built have 64 bits. -/
theorem Find.Built.fits {q : Find} (h : q.Built) : FitsNat64 q.skip ∧ ∀ n ∈ q.limit, FitsNat64 n := by
  induction h with
  | find h =>
    obtain ⟨_, -, h⟩ := Fallible.bind_eq_ok.1 h
    cases h
    exact ⟨Nat.zero_le _, by simp⟩
  | sortBy _ h ih =>
    obtain ⟨_, -, h⟩ := Fallible.bind_eq_ok.1 h
    cases h
    exact ih
  | sortByText _ h ih =>
    obtain ⟨_, -, h⟩ := Fallible.bind_eq_ok.1 h
    cases h
    exact ih
  | project _ h ih =>
    unfold Find.project at h
    dsimp only at h
    split at h
    · cases h
    · split at h
      · cases h
      · cases h
        exact ih
  | skipping _ fits ih => exact ⟨fits, ih.2⟩
  | @limitedTo q n _ fits ih =>
    refine ⟨ih.1, ?_⟩
    show ∀ m ∈ (if n = 0 then none else some n : Option Nat), FitsNat64 m
    split
    · simp
    · rintro _ ⟨⟩
      exact fits

namespace Command

/-- A query is written with documents for its order and its projection, if it has them. -/
theorem wellFormed_commandWithLimit {q : Find} (built : q.Built) {limit : Option Nat}
    (fits : ∀ n ∈ limit, FitsNat64 n) : (q.commandWithLimit limit).WellFormed := by
  refine ⟨?_, ?_, built.fits.1, fits⟩
  · show ∀ v ∈ q.sortJson, v ≠ .null
    unfold Find.sortJson
    split
    · simp
    · rintro _ ⟨⟩
      simp
  · intro v mem
    obtain ⟨fs, -, rfl⟩ := Option.map_eq_some_iff.1 mem
    simp

theorem Built.wellFormed {c : Command} (h : c.Built) : c.WellFormed := by
  cases h with
  | insertOne h =>
    obtain ⟨⟨_, _⟩, -, h⟩ := Fallible.bind_eq_ok.1 h
    cases h
    trivial
  | insertMany h =>
    unfold Collection.insertMany at h
    dsimp only at h
    split at h
    · cases h
    · obtain ⟨⟨_, _⟩, -, h⟩ := Fallible.bind_eq_ok.1 h
      cases h
      trivial
  | update h =>
    obtain ⟨_, -, h⟩ := Fallible.bind_eq_ok.1 h
    obtain ⟨_, -, h⟩ := Fallible.bind_eq_ok.1 h
    dsimp only at h
    split at h
    · obtain ⟨_, -, h⟩ := Fallible.bind_eq_ok.1 h
      cases h
      trivial
    · cases h
      trivial
  | delete h =>
    obtain ⟨_, -, h⟩ := Fallible.bind_eq_ok.1 h
    cases h
    trivial
  | count h =>
    obtain ⟨_, -, h⟩ := Fallible.bind_eq_ok.1 h
    cases h
    trivial
  | aggregate => trivial
  | watch => trivial
  | find built => exact wellFormed_commandWithLimit built built.fits.2
  | first built =>
    refine wellFormed_commandWithLimit built ?_
    rintro _ ⟨⟩
    decide
  | countFound => trivial
  | distinct => trivial

/-- **Commands survive their wire form.** A command that was read from some value, and one that was
built, is written as a value that is read as the same command, and so is written the same again.
What is written for a command that was read is the normal form of what it was read from. -/
theorem wire_round_trip {c : Command} (h : (∃ j, ofJson? j = some c) ∨ c.Built) :
    ofJson? c.toJson = some c ∧ (ofJson? c.toJson).map toJson = some c.toJson ∧
      ∀ j, ofJson? j = some c → normalize? j = some c.toJson := by
  have sound : c.WellFormed := by
    rcases h with ⟨j, h⟩ | built
    · exact (ofJson?_eq_some h).1
    · exact built.wellFormed
  have read := ofJson?_toJson sound
  refine ⟨read, by rw [read]; rfl, ?_⟩
  intro j h
  exact (ofJson?_eq_some h).2

/-- A null is a query, no order, and no number: one is kept, one is left out, and the number that is
missing is zero. -/
theorem wire_round_trip_nulls :
    let j : Json := .obj [("hint", .nat 1), ("sort", .null), ("filter", .null), ("op", .str "find"),
      ("collection", .str "people")]
    let c : Command := .find "people" { filter := .null }
    ofJson? j = some c ∧ ofJson? c.toJson = some c ∧
      normalize? j = some (.obj [("op", .str "find"), ("collection", .str "people"),
        ("filter", .null), ("skip", .nat 0)]) := by
  intro j c
  have read : ofJson? j = some c := rfl
  obtain ⟨back, -, normal⟩ := wire_round_trip (.inl ⟨j, read⟩)
  exact ⟨read, back, normal j read⟩

end Command

end DocStore
