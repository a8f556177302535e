import DocStore.Proofs.Filter.Operands

/-!
# Compiled filters mean what was written

The query of a filter decides, on every document, whether the filter is true of it
(`Filter.decides_toQuery`). The proof follows the compiler: groups of predicates lose and add
nothing (`Predicate.blocks_of_queryOf`), an operator at a field means the same bare, in a document
of operators and negated, and the three ways of negating a tree are negations.
-/

namespace DocStore

namespace Predicate

open Query (Decides Reaches)
open Fallible (bind_eq_ok mapM_eq_ok)

/-! ## Groups -/

/-- An operator and its operand, at a field, were written for a predicate. -/
structure Entry (types : FieldLookup) (field : String) (p : Predicate) (e : String × Json) :
    Prop where
  field : p.field = field
  key : e.1 = p.operator.queryKey
  operand : p.operand types = .ok e.2

/-- A group was written for a block of predicates. -/
structure Block (types : FieldLookup) (ps : List Predicate) (g : String × Fields) : Prop where
  filled : ps ≠ []
  entries : List.Forall₂ (Entry types g.1) ps g.2

theorem Block.field_eq {types : FieldLookup} {ps : List Predicate} {g : String × Fields}
    (h : Block types ps g) : ∀ p ∈ ps, p.field = g.1 := by
  obtain ⟨field, ops⟩ := g
  have entries : List.Forall₂ (Entry types field) ps ops := h.entries
  clear h
  induction entries with
  | nil => simp
  | cons here _ ih => exact List.forall_mem_cons.2 ⟨here.field, ih⟩

theorem Block.any_field {types : FieldLookup} {ps : List Predicate} {g : String × Fields}
    (h : Block types ps g) (field : String) : ps.any (·.field == field) = true ↔ g.1 = field := by
  simp only [List.any_eq_true, beq_iff_eq]
  constructor
  · rintro ⟨p, hp, rfl⟩
    exact (h.field_eq p hp).symm
  · rintro rfl
    obtain ⟨p, hp⟩ := List.exists_mem_of_ne_nil ps h.filled
    exact ⟨p, hp, h.field_eq p hp⟩

/-- A predicate enters the block whose group its operator enters. -/
theorem blocks_addToGroup {types : FieldLookup} {bs : List (List Predicate)} {gs gs' : Groups}
    {p : Predicate} {w : Json} (grouped : List.Forall₂ (Block types) bs gs)
    (hw : p.operand types = .ok w)
    (h : addToGroup p.field p.operator.queryKey w gs = .ok gs') :
    List.Forall₂ (Block types) (addToBlock p bs) gs' := by
  have entry (field : String) (same : p.field = field) :
      Entry types field p (p.operator.queryKey, w) := ⟨same, rfl, hw⟩
  induction grouped generalizing gs' with
  | nil =>
    cases h
    exact .cons ⟨by simp, .cons (entry _ rfl) .nil⟩ .nil
  | @cons b g bs rest here there ih =>
    obtain ⟨f, ops⟩ := g
    simp only [addToGroup, beq_iff_eq] at h
    split at h
    · rename_i same
      rw [addToBlock, if_pos ((here.any_field _).2 same)]
      split at h
      · cases h
      · cases h
        refine .cons ⟨by simp, ?_⟩ there
        exact List.rel_append here.entries (.cons (entry f same.symm) .nil)
    · rename_i other
      rw [addToBlock, if_neg (by simpa using mt (here.any_field _).1 other)]
      obtain ⟨later, hl, rfl⟩ := Fallible.map_eq_ok.1 h
      exact .cons here (ih hl)

theorem blocks_foldlM {types : FieldLookup} {ps : List Predicate} {bs : List (List Predicate)}
    {start gs : Groups} (grouped : List.Forall₂ (Block types) bs start)
    (h : ps.foldlM (fun groups p => do
      addToGroup p.field p.operator.queryKey (← p.operand types) groups) start = .ok gs) :
    List.Forall₂ (Block types) (ps.foldl (fun bs p => addToBlock p bs) bs) gs := by
  induction ps generalizing bs start with
  | nil =>
    cases h
    exact grouped
  | cons p ps ih =>
    rw [List.foldlM_cons] at h
    obtain ⟨next, hn, h⟩ := bind_eq_ok.1 h
    obtain ⟨w, hw, hn⟩ := bind_eq_ok.1 hn
    exact ih (blocks_addToGroup grouped hw hn) h

/-- **Grouping keeps every predicate and adds none.** -/
theorem blocks_of_queryOf {types : FieldLookup} {ps : List Predicate} {q : Json}
    (h : queryOf types ps = .ok q) :
    ∃ gs : Groups, q = .obj (gs.map fun g => (g.1, renderGroup g.2)) ∧
      List.Forall₂ (Block types) (ps.foldl (fun bs p => addToBlock p bs) []) gs := by
  obtain ⟨gs, hgs, h⟩ := bind_eq_ok.1 h
  exact ⟨gs, (Except.ok.inj h).symm, blocks_foldlM .nil hgs⟩

theorem mem_addToBlock {p p' : Predicate} {bs : List (List Predicate)} :
    p' ∈ (addToBlock p bs).flatten ↔ p' ∈ bs.flatten ∨ p' = p := by
  induction bs with
  | nil => simp [addToBlock]
  | cons b bs ih =>
    rw [addToBlock]
    split
    · simp only [List.flatten_cons, List.mem_append, List.mem_singleton]
      tauto
    · simp only [List.flatten_cons, List.mem_append, ih, or_assoc]

/-- Arranging predicates keeps every one and adds none. -/
theorem mem_arranged {p : Predicate} {ps : List Predicate} : p ∈ arranged ps ↔ p ∈ ps := by
  have from_ (bs : List (List Predicate)) :
      p ∈ (ps.foldl (fun bs p => addToBlock p bs) bs).flatten ↔ p ∈ bs.flatten ∨ p ∈ ps := by
    induction ps generalizing bs with
    | nil => simp
    | cons q ps ih => rw [List.foldl_cons, ih, mem_addToBlock, List.mem_cons, or_assoc]
  rw [arranged, from_]
  simp

/-! ## Queries of groups -/

section

variable {types : FieldLookup} {doc : Json}

theorem Entry.decides {field : String} {p : Predicate} {e : String × Json}
    (h : Entry types field p e) :
    Decides (Query.satisfies (doc.getPath? field) "" e.1 e.2) (p.Holds types doc)
      (¬ p.Searchable) := by
  rw [← h.field, h.key]
  exact decides_operand h.operand

theorem exists_operator {field : String} {ps : List Predicate} {ops : Fields}
    (h : List.Forall₂ (Entry types field) ps ops) : ∀ e ∈ ops, ∃ op : Operator, e.1 = op.queryKey := by
  induction h with
  | nil => simp
  | cons here _ ih => exact List.forall_mem_cons.2 ⟨⟨_, here.key⟩, ih⟩

/-- A document of operators asks for all of its predicates. -/
theorem decides_satisfiesAll {field : String} {ps : List Predicate} {ops : Fields}
    (h : List.Forall₂ (Entry types field) ps ops) :
    Decides (Query.satisfiesAll (doc.getPath? field) "" ops) (∀ p ∈ ps, p.Holds types doc)
      (Reaches (fun p => p.Holds types doc) (fun p => ¬ p.Searchable) ps) := by
  induction h with
  | nil => exact .inr (.inl ⟨rfl, by simp, Query.reaches_nil⟩)
  | @cons p e ps rest here _ ih =>
    obtain ⟨key, w⟩ := e
    obtain rfl : key = p.operator.queryKey := here.key
    rw [Query.satisfiesAll, if_neg (by simpa using p.operator.queryKey_ne_options),
      Query.satisfiesOperator_of_ne_not w p.operator.queryKey_ne_not]
    exact (here.decides.and ih).congr (by simp only [List.forall_mem_cons])
      (by simp only [Query.reaches_cons])

/-- A group of operators at its field, bare or as a document, asks for all of its predicates. -/
theorem Block.decides {ps : List Predicate} {g : String × Fields} (h : Block types ps g)
    (named : Text.isOperatorKey g.1 = false) :
    Decides (Query.selectsOne doc g.1 (renderGroup g.2)) (∀ p ∈ ps, p.Holds types doc)
      (Reaches (fun p => p.Holds types doc) (fun p => ¬ p.Searchable) ps) := by
  obtain ⟨field, ops⟩ := g
  have keys := exists_operator h.entries
  have entries := h.entries
  rw [Query.selectsOne_of_field _ named]
  simp only at entries keys
  unfold renderGroup
  split
  · -- A lone equality stands as the bare value, which is then compared.
    rename_i v same
    cases same
    cases entries with
    | @cons p _ _ _ here none =>
      cases none
      have equality : p.operator = .eq := by
        have key := here.key
        cases hop : p.operator <;> simp [hop, Operator.queryKey] at key
        rfl
      have operand := here.operand
      simp only [Predicate.operand, equality] at operand
      rw [Query.satisfiesCondition_bare fun fs same => not_isOperatorDocument (same ▸ operand)]
      exact here.decides.congr (by simp) (by simp [Query.reaches_cons, Query.reaches_nil])
  · have filled : ops ≠ [] := by
      rintro rfl
      cases entries
      exact h.filled rfl
    rw [Query.satisfiesCondition, if_pos (Query.isOperatorDocument_of_keys filled keys),
      Query.optionsOf_eq_empty keys]
    exact decides_satisfiesAll entries

theorem isOperatorKey_of_isFieldName {field : String} (h : isFieldName field = true) :
    Text.isOperatorKey field = false := by
  simp only [isFieldName, Bool.and_eq_true, Bool.not_eq_true'] at h
  exact h.2

theorem isFieldName_of_parseKey {key field : String} {op : Operator}
    (h : parseKey key = .ok (field, op)) : isFieldName field = true := by
  have checked {field' : String} {op' : Operator}
      (e : (if isFieldName field' then pure (field', op')
        else throw (.validation key .fieldName (.fieldName field')) : Result (String × Operator)) =
          .ok (field, op)) : isFieldName field = true := by
    split at e
    · cases e
      assumption
    · cases e
  unfold parseKey at h
  split at h
  · dsimp only at h
    split at h
    · obtain ⟨_, ⟨⟩, h⟩ := bind_eq_ok.1 h
      exact checked h
    · obtain ⟨_, ⟨⟩, -⟩ := bind_eq_ok.1 h
  · obtain ⟨_, ⟨⟩, h⟩ := bind_eq_ok.1 h
    exact checked h

/-- The predicates that are read from a mapping have fields with proper names. -/
theorem isFieldName_of_parse {kvs : Fields} {ps : List Predicate}
    (h : List.Forall₂ (fun kv p => parse kv.1 kv.2 = .ok p) kvs ps) :
    ∀ p ∈ ps, isFieldName p.field = true := by
  induction h with
  | nil => simp
  | @cons kv p _ _ here _ ih =>
    refine List.forall_mem_cons.2 ⟨?_, ih⟩
    obtain ⟨⟨field, op⟩, hk, here⟩ := bind_eq_ok.1 here
    cases here
    exact isFieldName_of_parseKey hk

/-- A query of groups asks for all predicates of all fields. -/
theorem decides_blocks {bs : List (List Predicate)} {gs : Groups}
    (grouped : List.Forall₂ (Block types) bs gs)
    (plain : ∀ p ∈ bs.flatten, Text.isOperatorKey p.field = false) :
    Decides (Query.selectsAll doc (gs.map fun g => (g.1, renderGroup g.2)))
      (∀ p ∈ bs.flatten, p.Holds types doc)
      (Reaches (fun p => p.Holds types doc) (fun p => ¬ p.Searchable) bs.flatten) := by
  induction grouped with
  | nil => exact .inr (.inl ⟨rfl, by simp, Query.reaches_nil⟩)
  | @cons b g bs gs here _ ih =>
    rw [List.flatten_cons] at plain ⊢
    obtain ⟨first, others⟩ := List.forall_mem_append.1 plain
    have name : Text.isOperatorKey g.1 = false := by
      obtain ⟨p, hp⟩ := List.exists_mem_of_ne_nil b here.filled
      rw [← here.field_eq p hp]
      exact first p hp
    rw [List.map_cons, Query.selectsAll]
    exact ((here.decides name).and (ih others)).congr (by rw [List.forall_mem_append])
      (by rw [Query.reaches_append])

/-- **The query of some predicates decides whether all of them are true.** -/
theorem decides_queryOf {q : Json} {ps : List Predicate}
    (plain : ∀ p ∈ ps, Text.isOperatorKey p.field = false) (h : queryOf types ps = .ok q) :
    Decides (Query.selects doc q) (∀ p ∈ ps, p.Holds types doc)
      (Reaches (fun p => p.Holds types doc) (fun p => ¬ p.Searchable) (arranged ps)) := by
  obtain ⟨gs, rfl, grouped⟩ := blocks_of_queryOf h
  rw [Query.selects]
  refine (decides_blocks grouped fun p hp => plain p (mem_arranged.1 hp)).congr ?_ Iff.rfl
  exact forall_congr' fun p => imp_congr_left mem_arranged

end

end Predicate

namespace Node

open Query (Decides Reaches)
open Fallible (bind_eq_ok mapM_eq_ok)

/-- Induction on trees, with the hypothesis for every child. -/
@[elab_as_elim]
theorem inductionOn {motive : Node → Prop} (n : Node) (leaf : ∀ p, motive (.leaf p))
    (and : ∀ children, (∀ child ∈ children, motive child) → motive (.and children))
    (or : ∀ children, (∀ child ∈ children, motive child) → motive (.or children))
    (not : ∀ child, motive child → motive (.not child)) : motive n :=
  n.rec leaf and or not (by simp) fun _ _ head tail => List.forall_mem_cons.2 ⟨head, tail⟩

theorem toQueries_eq_ok {types : FieldLookup} {ns : List Node} {qs : List Json} :
    toQueries types ns = .ok qs ↔ List.Forall₂ (fun n q => n.toQuery types = .ok q) ns qs := by
  have mapped : toQueries types ns = ns.mapM fun n => n.toQuery types := by
    induction ns with
    | nil => rfl
    | cons n ns ih => rw [toQueries, List.mapM_cons, ih]
  rw [mapped, mapM_eq_ok]

/-- A tree with children is compiled child by child. -/
theorem exists_queries_of_and {types : FieldLookup} {ns : List Node} {q : Json}
    (h : toQuery types (.and ns) = .ok q) :
    ∃ qs, List.Forall₂ (fun n q => n.toQuery types = .ok q) ns qs ∧
      (q = Query.everything ∧ ns = [] ∨ q = Query.allOf qs) := by
  cases ns with
  | nil => exact ⟨[], .nil, .inl ⟨(Except.ok.inj h).symm, rfl⟩⟩
  | cons n ns =>
    obtain ⟨q₀, hq₀, h⟩ := bind_eq_ok.1 h
    obtain ⟨qs, hqs, h⟩ := bind_eq_ok.1 h
    exact ⟨q₀ :: qs, .cons hq₀ (toQueries_eq_ok.1 hqs), .inr (Except.ok.inj h).symm⟩

theorem exists_queries_of_or {types : FieldLookup} {ns : List Node} {q : Json}
    (h : toQuery types (.or ns) = .ok q) :
    ∃ qs, List.Forall₂ (fun n q => n.toQuery types = .ok q) ns qs ∧
      (q = Query.nothing ∧ ns = [] ∨ q = .single "$or" (.arr qs)) := by
  cases ns with
  | nil => exact ⟨[], .nil, .inl ⟨(Except.ok.inj h).symm, rfl⟩⟩
  | cons n ns =>
    obtain ⟨q₀, hq₀, h⟩ := bind_eq_ok.1 h
    obtain ⟨qs, hqs, h⟩ := bind_eq_ok.1 h
    exact ⟨q₀ :: qs, .cons hq₀ (toQueries_eq_ok.1 hqs), .inr (Except.ok.inj h).symm⟩

/-- A negated predicate is negated at its field, any other tree as a whole. -/
theorem negation_cases {types : FieldLookup} {child : Node} {q : Json}
    (h : toQuery types (.not child) = .ok q) :
    (∃ p w, child = .leaf p ∧ p.operand types = .ok w ∧
      q = .single p.field (.single "$not" (.single p.operator.queryKey w))) ∨
    ∃ inner, child.toQuery types = .ok inner ∧ q = .single "$nor" (.arr [inner]) := by
  cases child with
  | leaf p =>
    obtain ⟨w, hw, h⟩ := bind_eq_ok.1 h
    exact .inl ⟨p, w, rfl, hw, (Except.ok.inj h).symm⟩
  | _ =>
    obtain ⟨inner, hi, h⟩ := bind_eq_ok.1 h
    exact .inr ⟨inner, hi, (Except.ok.inj h).symm⟩

section

variable {types : FieldLookup} {doc : Json}

theorem forall₂_decides (doc : Json) {ns : List Node} {qs : List Json}
    (h : List.Forall₂ (fun n q => n.toQuery types = .ok q) ns qs)
    (each : ∀ n ∈ ns, ∀ q, n.toQuery types = .ok q →
      Decides (Query.selects doc q) (n.Holds types doc) (n.Stalls types doc)) :
    List.Forall₂ (fun n q => Decides (Query.selects doc q) (n.Holds types doc)
      (n.Stalls types doc)) ns qs := by
  induction h with
  | nil => exact .nil
  | cons hq _ ih =>
    obtain ⟨here, there⟩ := List.forall_mem_cons.1 each
    exact .cons (here _ hq) (ih there)

theorem stalls_leaf {p : Predicate} : (leaf p).Stalls types doc ↔ ¬ p.Searchable :=
  ⟨fun | .leaf h => h, .leaf⟩

theorem stalls_and {ns : List Node} : (and ns).Stalls types doc ↔
    Reaches (fun n => n.Holds types doc) (fun n => n.Stalls types doc) ns := by
  constructor
  · rintro (_ | ⟨on, hit⟩)
    exact ⟨_, _, _, rfl, on, hit⟩
  · rintro ⟨_, _, _, rfl, on, hit⟩
    exact .and on hit

theorem stalls_or {ns : List Node} : (or ns).Stalls types doc ↔
    Reaches (fun n => ¬ n.Holds types doc) (fun n => n.Stalls types doc) ns := by
  constructor
  · rintro (_ | _ | ⟨on, hit⟩)
    exact ⟨_, _, _, rfl, on, hit⟩
  · rintro ⟨_, _, _, rfl, on, hit⟩
    exact .or on hit

theorem stalls_not {n : Node} : (not n).Stalls types doc ↔ n.Stalls types doc :=
  ⟨fun | .not h => h, .not⟩

/-- Only a substring that is too large stalls a tree. -/
theorem Stalls.exists_mention {n : Node} (h : n.Stalls types doc) :
    ∃ p, n.Mentions p ∧ ¬ p.Searchable := by
  induction h with
  | leaf large => exact ⟨_, .leaf, large⟩
  | and _ _ ih =>
    obtain ⟨p, mention, large⟩ := ih
    exact ⟨p, .and (by simp) mention, large⟩
  | or _ _ ih =>
    obtain ⟨p, mention, large⟩ := ih
    exact ⟨p, .or (by simp) mention, large⟩
  | not _ ih =>
    obtain ⟨p, mention, large⟩ := ih
    exact ⟨p, .not mention, large⟩

theorem selects_everything : Query.selects doc Query.everything = .ok true := rfl

theorem selects_nothing : Query.selects doc Query.nothing = .ok false := rfl

/-- **The query of a tree decides whether the tree is true**, whatever its depth. -/
theorem decides_toQuery (n : Node) :
    (∀ p, n.Mentions p → Text.isOperatorKey p.field = false) → ∀ q, n.toQuery types = .ok q →
      Decides (Query.selects doc q) (n.Holds types doc) (n.Stalls types doc) := by
  induction n using inductionOn with
  | leaf p =>
    intro plain q h
    refine (Predicate.decides_queryOf (by simpa using plain p .leaf) h).congr (by simp [Holds]) ?_
    simp [stalls_leaf, Predicate.arranged, Predicate.addToBlock, Query.reaches_cons,
      Query.reaches_nil]
  | and children ih =>
    intro plain q h
    obtain ⟨qs, hqs, ⟨rfl, rfl⟩ | rfl⟩ := exists_queries_of_and h
    · exact .inr (.inl ⟨selects_everything, by simp [Holds], by simp [stalls_and, Query.reaches_nil]⟩)
    · have all := forall₂_decides doc hqs fun n hn q =>
        ih n hn (fun p hp => plain p (.and hn hp)) q
      rw [Query.allOf, Query.selects_single]
      exact (Query.decides_everyClause all).congr (by simp [Holds]) stalls_and.symm
  | or children ih =>
    intro plain q h
    obtain ⟨qs, hqs, ⟨rfl, rfl⟩ | rfl⟩ := exists_queries_of_or h
    · exact .inr (.inr ⟨selects_nothing, by simp [Holds], by simp [stalls_or, Query.reaches_nil]⟩)
    · have all := forall₂_decides doc hqs fun n hn q =>
        ih n hn (fun p hp => plain p (.or hn hp)) q
      rw [Query.selects_single]
      exact (Query.decides_someClause all).congr (by simp [Holds]) stalls_or.symm
  | not child ih =>
    intro plain q h
    obtain ⟨p, w, rfl, hw, rfl⟩ | ⟨inner, hi, rfl⟩ := negation_cases h
    · rw [Query.selects_single, Query.selectsOne_of_field _ (plain p (.not .leaf))]
      exact (Predicate.decides_operand hw).negated.congr (by simp [Holds])
        (by rw [stalls_not, stalls_leaf])
    · have one := ih (fun p hp => plain p (.not hp)) inner hi
      have some := Query.decides_someClause (.cons one .nil)
      rw [Query.selects_single]
      exact some.not.congr (by simp [Holds])
        (by simp [stalls_not, Query.reaches_cons, Query.reaches_nil])

end

end Node

namespace Filter

open Query (Decides Reaches)
open Fallible (bind_eq_ok mapM_eq_ok)

section

variable {types : FieldLookup} {doc q : Json} {f : Filter} {qs : List Json}

/-- The parts of a filter are the query of its mapping, if it has one, and those of its trees. -/
theorem parts_cases (h : f.parts types = .ok qs) :
    ∃ others, List.Forall₂ (fun n q => n.toQuery types = .ok q) f.combinators others ∧
      (f.predicates = [] ∧ qs = others ∨
        ∃ ps own, f.predicates.mapM (fun kv => Predicate.parse kv.1 kv.2) = .ok ps ∧
          Predicate.queryOf types ps = .ok own ∧ qs = own :: others) := by
  unfold parts at h
  split at h
  · rename_i empty
    obtain ⟨_, ⟨⟩, h⟩ := bind_eq_ok.1 h
    obtain ⟨others, hothers, h⟩ := bind_eq_ok.1 h
    cases h
    exact ⟨others, Node.toQueries_eq_ok.1 hothers, .inl ⟨List.isEmpty_iff.1 empty, rfl⟩⟩
  · obtain ⟨ps, hps, h⟩ := bind_eq_ok.1 h
    obtain ⟨own, hown, h⟩ := bind_eq_ok.1 h
    obtain ⟨_, ⟨⟩, h⟩ := bind_eq_ok.1 h
    obtain ⟨others, hothers, h⟩ := bind_eq_ok.1 h
    cases h
    exact ⟨others, Node.toQueries_eq_ok.1 hothers, .inr ⟨ps, own, hps, hown, rfl⟩⟩

/-- The query of a filter selects what all of its parts select. -/
theorem exists_parts (h : f.toQuery types = .ok q) :
    ∃ qs, f.parts types = .ok qs ∧ ∀ doc, Query.selects doc q = Query.everyClause doc qs := by
  obtain ⟨qs, hqs, h⟩ := bind_eq_ok.1 h
  refine ⟨qs, hqs, fun doc => ?_⟩
  split at h
  · cases h
    rfl
  · cases h
    rw [Query.everyClause]
    cases hq : Query.selects doc q with
    | error e => rfl
    | ok b => cases b <;> rfl
  · cases h
    rw [Query.allOf, Query.selects_single]
    rfl

theorem decides_mapping {ps : List Predicate}
    (hps : f.predicates.mapM (fun kv => Predicate.parse kv.1 kv.2) = .ok ps)
    (hq : Predicate.queryOf types ps = .ok q) :
    Decides (Query.selects doc q) (f.MappingHolds types doc) (f.MappingStalls types doc) := by
  have parsed := mapM_eq_ok.1 hps
  have plain := fun p hp => Predicate.isOperatorKey_of_isFieldName
    (Predicate.isFieldName_of_parse parsed p hp)
  refine (Predicate.decides_queryOf plain hq).congr ?_ ?_
  · unfold MappingHolds
    clear hps hq plain
    generalize f.predicates = kvs at parsed
    induction parsed with
    | nil => simp
    | cons here _ ih => simp [here, ih]
  · unfold MappingStalls
    rw [hps]
    simp

/-- No predicate in the trees of a filter has a field that looks like an operator. -/
def Plain (f : Filter) : Prop :=
  ∀ n ∈ f.combinators, ∀ p, n.Mentions p → Text.isOperatorKey p.field = false

/-- The query of a filter decides whether the filter is true. -/
theorem Plain.decides_toQuery (plain : f.Plain) (doc : Json) (h : f.toQuery types = .ok q) :
    Decides (Query.selects doc q) (f.Holds types doc) (f.Stalls types doc) := by
  obtain ⟨qs, hqs, selects⟩ := exists_parts h
  obtain ⟨others, hothers, own⟩ := parts_cases hqs
  have trees := Query.decides_everyClause (Node.forall₂_decides doc hothers
    fun n hn q => n.decides_toQuery (plain n hn) q)
  rw [selects]
  obtain ⟨empty, rfl⟩ | ⟨ps, own, hps, hown, rfl⟩ := own
  · refine trees.congr ?_ ?_
    · simp [Holds, MappingHolds, empty]
    · have none : ¬ f.MappingStalls types doc := by
        rintro ⟨ps, hps, hit⟩
        rw [empty] at hps
        cases hps
        exact Query.reaches_nil hit
      simp [Stalls, MappingHolds, none, empty]
  · rw [Query.everyClause]
    exact ((decides_mapping hps hown).and trees).congr Iff.rfl Iff.rfl

theorem decides_toQuery (doc : Json)
    (named : ∀ n ∈ f.combinators, ∀ p, n.Mentions p → Predicate.isFieldName p.field = true)
    (h : f.toQuery types = .ok q) :
    Decides (Query.selects doc q) (f.Holds types doc) (f.Stalls types doc) :=
  Plain.decides_toQuery (fun n hn p mention =>
    Predicate.isOperatorKey_of_isFieldName (named n hn p mention)) doc h

/-- Only a substring that is too large stalls a filter. -/
theorem Stalls.exists_mention (h : f.Stalls types doc) : ∃ p, f.Mentions p ∧ ¬ p.Searchable := by
  rcases h with ⟨ps, hps, before, p, after, e, -, large⟩ | ⟨-, before, n, after, e, -, stalls⟩
  · have member : p ∈ ps := Predicate.mem_arranged.1 (by simp [e])
    obtain ⟨kv, hkv, parsed⟩ := Fallible.exists_of_mem (mapM_eq_ok.1 hps) member
    exact ⟨p, .inl ⟨kv, hkv, parsed⟩, large⟩
  · obtain ⟨p, mention, large⟩ := stalls.exists_mention
    exact ⟨p, .inr ⟨n, by simp [e], mention⟩, large⟩

end

/-- **A compiled filter means what was written, unless a substring is too large to search for.**
The search of a document fails exactly when it comes to such a substring, and otherwise answers
whether the filter is true of the document. -/
theorem selects_toQuery {types : FieldLookup} {f : Filter} {q : Json} (doc : Json)
    (named : ∀ n ∈ f.combinators, ∀ p, n.Mentions p → Predicate.isFieldName p.field = true)
    (compiled : f.toQuery types = .ok q) :
    (f.Stalls types doc → Query.selects doc q = .error (.badPattern .tooLarge)) ∧
      (¬ f.Stalls types doc →
        ∃ b, Query.selects doc q = .ok b ∧ (b = true ↔ f.Holds types doc)) ∧
      ((∀ p, f.Mentions p → p.Searchable) → ¬ f.Stalls types doc) := by
  have decides := decides_toQuery doc named compiled
  refine ⟨decides.eq_error, decides.exists_ok, fun fits stalls => ?_⟩
  obtain ⟨p, mention, large⟩ := stalls.exists_mention
  exact large (fits p mention)

/-- A substring beside a negated disjunction. -/
theorem selects_toQuery_nested :
    ∃ q b, Filter.toQuery (fun _ => none) ⟨[("name__contains", .str "a.b")],
        [.not (.or [.leaf ⟨"n", .gt, .int 5⟩, .leaf ⟨"tag", .eq, .str "x"⟩])]⟩ = .ok q ∧
      Query.selects (.obj [("name", .str "xa.by"), ("n", .arr [.int 2, .int 5])]) q = .ok b ∧
      (b = true ↔ Filter.Holds (fun _ => none)
        (.obj [("name", .str "xa.by"), ("n", .arr [.int 2, .int 5])])
        ⟨[("name__contains", .str "a.b")],
          [.not (.or [.leaf ⟨"n", .gt, .int 5⟩, .leaf ⟨"tag", .eq, .str "x"⟩])]⟩) := by
  have compiled : Filter.toQuery (fun _ => none) ⟨[("name__contains", .str "a.b")],
        [.not (.or [.leaf ⟨"n", .gt, .int 5⟩, .leaf ⟨"tag", .eq, .str "x"⟩])]⟩ = .ok
      (Query.allOf [.single "name" (.single "$regex" (.str "a\\.b")), .single "$nor" (.arr [
        .single "$or" (.arr [.single "n" (.single "$gt" (.int 5)),
          .single "tag" (.str "x")])])]) := by
    unfold Filter.toQuery Filter.parts
    cbv
  have leaves : ∀ p, Node.Mentions p
      (.not (.or [.leaf ⟨"n", .gt, .int 5⟩, .leaf ⟨"tag", .eq, .str "x"⟩])) →
        p = ⟨"n", .gt, .int 5⟩ ∨ p = ⟨"tag", .eq, .str "x"⟩ := by
    intro p mention
    cases mention with
    | not mention =>
    cases mention with
    | or member inner =>
    simp only [List.mem_cons, List.not_mem_nil, or_false] at member
    rcases member with rfl | rfl
    · cases inner
      exact .inl rfl
    · cases inner
      exact .inr rfl
  have outcome := selects_toQuery (.obj [("name", .str "xa.by"), ("n", .arr [.int 2, .int 5])])
    (by
      simp only [List.mem_singleton, forall_eq]
      intro p mention
      rcases leaves p mention with rfl | rfl <;> decide) compiled
  obtain ⟨b, selects, holds⟩ := outcome.2.1 (outcome.2.2 (by
    rintro p (⟨kv, hkv, parsed⟩ | ⟨n, hn, mention⟩)
    · obtain rfl := List.mem_singleton.1 hkv
      have read : Predicate.parse "name__contains" (.str "a.b") =
          .ok ⟨"name", .contains, .str "a.b"⟩ := by cbv
      cases read.symm.trans parsed
      rintro - needle same
      cases same
      exact ⟨_, by rw [Regex.ofString_escape, if_pos (by decide)]⟩
    · obtain rfl := List.mem_singleton.1 hn
      rcases leaves p mention with rfl | rfl <;> exact Predicate.searchable_of_ne (by decide)))
  exact ⟨_, b, compiled, selects, holds⟩

/-- A single substring is compiled without a look at its size. -/
theorem toQuery_oneSubstring (needle : String) :
    Filter.toQuery (fun _ => none) { predicates := [("a__contains", .str needle)] } =
      .ok (.single "a" (.single "$regex" (.str (Regex.escape needle)))) := by
  have key : Predicate.parseKey "a__contains" = .ok ("a", .contains) := by cbv
  have parsed : Predicate.parse "a__contains" (.str needle) = .ok ⟨"a", .contains, .str needle⟩ := by
    rw [Predicate.parse, key]
    rfl
  simp only [Filter.toQuery, Filter.parts, List.isEmpty_cons, List.mapM_cons, parsed]
  rfl

/-- A substring that is too large is compiled, and then no document can be searched for it. -/
theorem selects_oversized :
    ∃ q, Filter.toQuery (fun _ => none)
        { predicates := [("a__contains", .str (String.ofList (List.replicate 450000 'a')))] } =
      .ok q ∧ Query.selects (.obj [("a", .str "b")]) q = .error (.badPattern .tooLarge) := by
  have stall (needle : String) (large : Regex.ofString (Regex.escape needle) = .error .tooLarge) :
      Query.selects (.obj [("a", .str "b")])
        (.single "a" (.single "$regex" (.str (Regex.escape needle)))) =
          .error (.badPattern .tooLarge) := by
    have fails := Query.satisfies_badPattern (Json.getPath? (.obj [("a", .str "b")]) "a") large
    rw [Query.selects_single, Query.selectsOne_of_field _ (by simp [Text.isOperatorKey]), Json.single]
    rw [Query.satisfiesCondition, if_pos (by simp [Query.isOperatorDocument, Text.isOperatorKey])]
    rw [Query.optionsOf_eq_empty (by simpa using ⟨Operator.regex, rfl⟩), Query.satisfiesAll, if_neg (by simp),
      Query.satisfiesOperator_of_ne_not _ (by simp), fails]
    rfl
  exact ⟨_, toQuery_oneSubstring _, stall _ (Regex.ofString_escape_replicate (by omega))⟩

end Filter

end DocStore
