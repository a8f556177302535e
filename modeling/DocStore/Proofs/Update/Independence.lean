import DocStore.Proofs.Json.ChangeLists
import DocStore.Proofs.Update.Edits
import DocStore.Store.Write
import Mathlib.Data.List.Forall2

/-!
# Updates of paths that are apart

What an edit amounts to depends on what is read at its path, and on nothing else. Edits of paths that
are apart leave what the others read, so that they amount to the same changes in whatever order they
are made (`Update.foldlM_edit_iff`), and the changes can be made in any order. An edit that only sets,
removes or adds what is missing amounts to the same afterwards (`Update.Amounts.again`), so that it
changes nothing when it is made again.
-/

namespace DocStore

open Fallible (bind_eq_ok)
open Json (PathChange)
open Json.PathChange (isObject_of_made isObject_of_foldlM free_iff free_of_made free_of_foldlM
  foldlM_wellFormed foldlM_perm foldlM_again)

namespace Update

/-! ## What an edit amounts to -/

section

variable {doc doc' operand : Json} {field : String} {e : Edit} {c : PathChange}

theorem Amounts.path (h : Amounts doc e c) : c.path = .ofString e.field := by
  cases h <;> rfl

/-- What an edit amounts to depends on what is read at its path, if it does not just remove that. -/
theorem Amounts.of_read (h : Amounts doc e c)
    (same : c.action ≠ .remove → doc'.getPath? e.field = doc.getPath? e.field) :
    Amounts doc' e c := by
  cases h with
  | keep kept =>
    have same := same nofun
    dsimp only at same
    rw [← same] at kept
    exact .keep kept
  | set other => exact .set other
  | unset other => exact .unset other
  | start other missing => exact .start other ((same nofun).trans missing)
  | add other here => exact .add other ((same nofun).trans here)
  | append other pushes items read =>
    have same := same nofun
    dsimp only at same
    rw [← same] at read
    exact .append other pushes items read

theorem wellFormed_addedItems {added : List Json} (wf : operand.WellFormed)
    (items : addedItems operand = .ok added) : ∀ x ∈ added, x.WellFormed := by
  unfold addedItems at items
  split at items
  · rename_i xs here
    cases items
    cases operand with
    | obj fs => exact (wf.of_get? here).items
    | _ => cases here
  · cases items
  · cases items
    exact List.forall_mem_singleton.2 wf

theorem wellFormed_sum (a b : Number) : (sum a b).WellFormed := by
  have inexact : (Json.ofBinary64? (a.toBinary64.add b.toBinary64)).WellFormed := by
    unfold Json.ofBinary64?
    split
    · exact .num _
    · exact .null
  unfold sum
  dsimp only
  split
  · split
    · exact .num _
    · exact inexact
  · exact inexact

theorem Amounts.wellFormed (h : Amounts doc e c) (wf : doc.WellFormed)
    (given : e.operand.WellFormed) : c.WellFormed := by
  intro value written
  cases h with
  | keep | unset => cases written
  | set =>
    cases written
    exact given
  | start =>
    cases written
    exact .num _
  | add =>
    cases written
    exact wellFormed_sum _ _
  | append other pushes items read =>
    cases written
    apply Json.WellFormed.arr
    intro x mem
    rcases mem_foldl_addItem mem with mem | mem
    · exact wellFormed_addedItems given items x mem
    · rcases read with ⟨-, rfl⟩ | here
      · cases mem
      · exact (wf.getPath? here).items x mem

/-! ## Edits that are apart -/

/-- Two edits of paths that are apart. -/
def Edit.Apart (e e' : Edit) : Prop := (Path.ofString e.field).Apart (.ofString e'.field)

instance (e e' : Edit) : Decidable (e.Apart e') :=
  inferInstanceAs (Decidable ((Path.ofString e.field).Apart (.ofString e'.field)))

variable {c' : PathChange} {e' : Edit} {es es' : List Edit} {cs : List PathChange} {a : Json}

/-- What an edit reads is not behind something that is no object. -/
theorem Amounts.clear (h : Amounts doc' e c) (object : doc.isObject = true) (free : c.Free doc)
    (acts : c.action ≠ .remove) : ¬ doc.Obstructs c.path := by
  cases h with
  | keep =>
    show ¬ doc.Obstructs (.ofString "_id")
    rw [Path.ofString_id, Json.obstructs_cons, object]
    rintro (other | ⟨below, -, blocked⟩)
    · cases other
    · exact Json.not_obstructs_nil below blocked
  | unset => exact absurd rfl acts
  | _ => exact free _ rfl

/-- **A change leaves what edits of other paths amount to.** -/
theorem amounts_iff (wf : doc.WellFormed) (object : doc.isObject = true)
    (apart : c.path.Apart (.ofString e'.field)) (made : c.apply doc = some doc')
    (free : c'.Free doc) : Amounts doc' e' c' ↔ Amounts doc e' c' := by
  have read {d : Json} (h : Amounts d e' c') (acts : c'.action ≠ .remove) :
      doc'.getPath? e'.field = doc.getPath? e'.field := by
    have clear := h.clear object free acts
    rw [h.path] at clear
    exact PathChange.getSegments?_eq wf apart (fun _ => clear) made
  constructor
  · intro h
    exact h.of_read fun acts => (read h acts).symm
  · intro h
    exact h.of_read (read h)

/-- The changes that edits amount to, all in the same document. -/
def AmountTo (doc : Json) (es : List Edit) (cs : List PathChange) : Prop :=
  List.Forall₂ (Amounts doc) es cs

theorem AmountTo.paths (h : AmountTo doc es cs) :
    cs.map PathChange.path = es.map fun e => Path.ofString e.field := by
  induction h with
  | nil => rfl
  | cons first _ ih => rw [List.map_cons, List.map_cons, first.path, ih]

theorem AmountTo.pairwise (h : AmountTo doc es cs) (apart : es.Pairwise Edit.Apart) :
    cs.Pairwise fun c c' => c.path.Apart c'.path := by
  have paths : (es.map fun e => Path.ofString e.field).Pairwise Path.Apart :=
    List.pairwise_map.2 apart
  rw [← h.paths] at paths
  exact List.pairwise_map.1 paths

theorem AmountTo.wellFormed (h : AmountTo doc es cs) (wf : doc.WellFormed)
    (given : ∀ e ∈ es, e.operand.WellFormed) : ∀ c ∈ cs, c.WellFormed := by
  induction h with
  | nil => exact fun _ mem => absurd mem List.not_mem_nil
  | cons first _ ih =>
    obtain ⟨here, later⟩ := List.forall_mem_cons.1 given
    exact List.forall_mem_cons.2 ⟨first.wellFormed wf here, ih later⟩

theorem amountTo_iff (wf : doc.WellFormed) (object : doc.isObject = true)
    (apart : ∀ e' ∈ es, c.path.Apart (.ofString e'.field)) (made : c.apply doc = some doc')
    (free : ∀ c' ∈ cs, c'.Free doc) : AmountTo doc' es cs ↔ AmountTo doc es cs := by
  unfold AmountTo
  induction es generalizing cs with
  | nil => rw [List.forall₂_nil_left_iff, List.forall₂_nil_left_iff]
  | cons e' es ih =>
    obtain ⟨away, apart⟩ := List.forall_mem_cons.1 apart
    cases cs with
    | nil => exact iff_of_false nofun nofun
    | cons c' cs =>
      obtain ⟨here, later⟩ := List.forall_mem_cons.1 free
      rw [List.forall₂_cons, List.forall₂_cons, amounts_iff wf object away made here,
        ih apart later]

/-- **Edits of paths that are apart make the changes that they amount to at the start.** -/
theorem foldlM_edit_iff (apart : es.Pairwise Edit.Apart)
    (given : ∀ e ∈ es, e.operand.WellFormed) (wf : doc.WellFormed) (object : doc.isObject = true) :
    es.foldlM Edit.apply doc = .ok a ↔
      ∃ cs, AmountTo doc es cs ∧ cs.foldlM PathChange.apply doc = some a := by
  induction es generalizing doc with
  | nil =>
    constructor
    · intro h
      obtain rfl : doc = a := Except.ok.inj h
      exact ⟨[], .nil, rfl⟩
    · rintro ⟨cs, none, made⟩
      obtain rfl := List.forall₂_nil_left_iff.1 none
      obtain rfl : doc = a := Option.some.inj made
      rfl
  | cons e es ih =>
    obtain ⟨away, apart⟩ := List.pairwise_cons.1 apart
    obtain ⟨here, later⟩ := List.forall_mem_cons.1 given
    constructor
    · intro h
      obtain ⟨next, first, rest⟩ := bind_eq_ok.1 h
      obtain ⟨c, amounts, made⟩ := edit_eq_ok.1 first
      have away' : ∀ e' ∈ es, c.path.Apart (.ofString e'.field) := amounts.path ▸ away
      have wf' := (amounts.wellFormed wf here).apply wf made
      obtain ⟨cs, amountTo, folds⟩ := (ih apart later wf' (isObject_of_made object made)).1 rest
      have free : ∀ c' ∈ cs, c'.Free doc := by
        intro c' mem
        have free := free_of_foldlM (amountTo.pairwise apart) (amountTo.wellFormed wf' later) wf'
          folds c' mem
        have path : c'.path ∈ es.map fun e => Path.ofString e.field := by
          rw [← amountTo.paths]
          exact List.mem_map_of_mem mem
        obtain ⟨e', mem', same⟩ := List.mem_map.1 path
        have apart' : c.path.Apart c'.path := same ▸ away' e' mem'
        exact (free_iff wf apart' made).1 free
      refine ⟨c :: cs, .cons amounts ?_, Option.bind_eq_some_iff.2 ⟨next, made, folds⟩⟩
      exact (amountTo_iff wf object away' made free).1 amountTo
    · rintro ⟨_, amountTo, folds⟩
      have all : AmountTo doc (e :: es) _ := amountTo
      have pairwise := all.pairwise (List.pairwise_cons.2 ⟨away, apart⟩)
      have free := free_of_foldlM pairwise (all.wellFormed wf given) wf folds
      cases amountTo with
      | @cons _ c _ cs amounts rest =>
        obtain ⟨next, made, folds⟩ := Option.bind_eq_some_iff.1 folds
        have away' : ∀ e' ∈ es, c.path.Apart (.ofString e'.field) := amounts.path ▸ away
        have wf' := (amounts.wellFormed wf here).apply wf made
        have amountTo := (amountTo_iff wf object away' made (List.forall_mem_cons.1 free).2).2 rest
        refine bind_eq_ok.2 ⟨next, edit_eq_ok.2 ⟨c, amounts, made⟩, ?_⟩
        exact (ih apart later wf' (isObject_of_made object made)).2 ⟨cs, amountTo, folds⟩

theorem AmountTo.of_mem (h : AmountTo doc es cs) (mem : e ∈ es) : ∃ c ∈ cs, Amounts doc e c := by
  induction h with
  | nil => cases mem
  | @cons _ c _ cs first _ ih =>
    rcases List.mem_cons.1 mem with rfl | mem
    · exact ⟨c, List.mem_cons_self, first⟩
    · obtain ⟨c', mem', amounts⟩ := ih mem
      exact ⟨c', List.mem_cons_of_mem _ mem', amounts⟩

/-- **Edits of paths that are apart each leave what they amount to at the start.** -/
theorem getPath?_of_foldlM_edit (apart : es.Pairwise Edit.Apart)
    (given : ∀ e ∈ es, e.operand.WellFormed) (wf : doc.WellFormed) (object : doc.isObject = true)
    (made : es.foldlM Edit.apply doc = .ok a) (mem : e ∈ es) :
    ∃ c, Amounts doc e c ∧ ∀ value, c.action = .write value → a.getPath? e.field = some value := by
  obtain ⟨cs, amountTo, folds⟩ := (foldlM_edit_iff apart given wf object).1 made
  obtain ⟨c, mem', amounts⟩ := amountTo.of_mem mem
  refine ⟨c, amounts, fun value writes => ?_⟩
  have stays := PathChange.getSegments?_foldlM_of_mem (amountTo.pairwise apart)
    (amountTo.wellFormed wf given) wf folds mem' writes
  rw [amounts.path] at stays
  exact stays

/-- **Edits of paths that are apart can be made in any order.** -/
theorem foldlM_edit_perm (perm : es.Perm es') (apart : es.Pairwise Edit.Apart)
    (given : ∀ e ∈ es, e.operand.WellFormed) (wf : doc.WellFormed) (object : doc.isObject = true)
    (made : es.foldlM Edit.apply doc = .ok a) :
    ∃ b, es'.foldlM Edit.apply doc = .ok b ∧ a.Reordered b ∧ a.WellFormed ∧ b.WellFormed := by
  obtain ⟨cs, amountTo, folds⟩ := (foldlM_edit_iff apart given wf object).1 made
  have wfs := amountTo.wellFormed wf given
  obtain ⟨cs', amountTo', perm'⟩ := List.perm_comp_forall₂ perm.symm amountTo
  obtain ⟨b, folds', same⟩ := foldlM_perm perm'.symm (amountTo.pairwise apart) wfs wf folds
  have apart' := (perm.pairwise_iff Path.Apart.symm).1 apart
  have given' (e : Edit) (mem : e ∈ es') := given e (perm.mem_iff.2 mem)
  refine ⟨b, (foldlM_edit_iff apart' given' wf object).2 ⟨cs', amountTo', folds'⟩, same, ?_, ?_⟩
  · exact foldlM_wellFormed wfs wf folds
  · exact foldlM_wellFormed (fun c mem => wfs c (perm'.mem_iff.1 mem)) wf folds'

/-! ## Edits that are made again -/

/-- Edits that leave nothing to do: they set, they remove, or they add what is missing. -/
def Edit.Settles (e : Edit) : Prop := e.operator ∈ ["$set", "$unset", "$addToSet"]

theorem foldl_addItem_of_present {added current : List Json}
    (present : ∀ x ∈ added, current.any (·.equals x) = true) :
    added.foldl (addItem true) current = current := by
  induction added with
  | nil => rfl
  | cons x added ih =>
    obtain ⟨here, later⟩ := List.forall_mem_cons.1 present
    have kept : addItem true current x = current := by rw [addItem, here, Bool.and_self, if_pos rfl]
    rw [List.foldl_cons, kept, ih later]

/-- An edit that settles amounts to the same afterwards. -/
theorem Amounts.again (h : Amounts doc e c) (settles : e.Settles) (given : e.operand.WellFormed)
    (made : c.apply doc = some doc') : Amounts doc' e c := by
  cases h with
  | keep same =>
    obtain rfl : doc = doc' := Option.some.inj made
    exact .keep same
  | set other => exact .set other
  | unset other => exact .unset other
  | start => exact absurd settles (by simp [Edit.Settles])
  | add => exact absurd settles (by simp [Edit.Settles])
  | @append _ field operand unique added current other pushes items read =>
    rcases pushes with ⟨rfl, -⟩ | ⟨rfl, rfl⟩
    · exact absurd settles (by simp [Edit.Settles])
    have there : doc'.getPath? field = some (.arr (added.foldl (addItem true) current)) :=
      Json.getSegments?_setSegments?_self made
    -- The items are there now, so that adding them adds none.
    have present : ∀ x ∈ added, (added.foldl (addItem true) current).any (·.equals x) = true := by
      intro x mem
      obtain ⟨y, stored, same⟩ := exists_mem_foldl_addItem mem
      refine List.any_eq_true.2 ⟨y, stored, ?_⟩
      rcases same with rfl | equal
      · exact Json.equals_refl (wellFormed_addedItems given items y mem)
      · exact equal
    have again := Amounts.append other (.inr ⟨rfl, rfl⟩) items (.inr there)
    rw [foldl_addItem_of_present present] at again
    exact again

/-- An edit amounts to the same after changes at other paths. -/
theorem Amounts.run (h : Amounts doc e c) (apart : ∀ c' ∈ cs, c'.path.Apart (.ofString e.field))
    (given : ∀ c' ∈ cs, c'.WellFormed) (wf : doc.WellFormed) (object : doc.isObject = true)
    (free : c.Free doc) (made : cs.foldlM PathChange.apply doc = some a) : Amounts a e c := by
  induction cs generalizing doc with
  | nil =>
    obtain rfl : doc = a := Option.some.inj made
    exact h
  | cons c' cs ih =>
    obtain ⟨away, apart⟩ := List.forall_mem_cons.1 apart
    obtain ⟨here, later⟩ := List.forall_mem_cons.1 given
    obtain ⟨next, first, rest⟩ := Option.bind_eq_some_iff.1 made
    have free' := (free_iff wf (h.path ▸ away) first).2 free
    have h' := (amounts_iff wf object away first free).2 h
    exact ih h' apart later (here.apply wf first) (isObject_of_made object first) free' rest

theorem AmountTo.again (h : AmountTo doc es cs) (apart : es.Pairwise Edit.Apart)
    (settle : ∀ e ∈ es, e.Settles) (given : ∀ e ∈ es, e.operand.WellFormed) (wf : doc.WellFormed)
    (object : doc.isObject = true) (made : cs.foldlM PathChange.apply doc = some a) :
    AmountTo a es cs := by
  have wfs := h.wellFormed wf given
  have pairwise := h.pairwise apart
  have free := free_of_foldlM pairwise wfs wf made
  induction es generalizing doc cs with
  | nil =>
    obtain rfl := List.forall₂_nil_left_iff.1 h
    exact .nil
  | cons e es ih =>
    cases h with
    | @cons _ c _ cs amounts rest =>
      obtain ⟨next, first, folds⟩ := Option.bind_eq_some_iff.1 made
      obtain ⟨away, apart⟩ := List.pairwise_cons.1 apart
      obtain ⟨away', pairwise⟩ := List.pairwise_cons.1 pairwise
      obtain ⟨settles, settle⟩ := List.forall_mem_cons.1 settle
      obtain ⟨here, given⟩ := List.forall_mem_cons.1 given
      obtain ⟨wfc, wfs⟩ := List.forall_mem_cons.1 wfs
      have wf' := wfc.apply wf first
      have object' := isObject_of_made object first
      have apart' (c' : PathChange) (mem : c' ∈ cs) : c'.path.Apart (.ofString e.field) :=
        amounts.path ▸ (away' c' mem).symm
      have again : Amounts a e c :=
        (amounts.again settles here first).run apart' wfs wf' object' (free_of_made first) folds
      have later : AmountTo next es cs :=
        (amountTo_iff wf object (amounts.path ▸ away) first (List.forall_mem_cons.1 free).2).2 rest
      have free' := free_of_foldlM pairwise wfs wf' folds
      exact .cons again (ih later apart settle given wf' object' folds wfs pairwise free')

/-- **Edits of paths that are apart change nothing when they are made again**, if they settle. -/
theorem foldlM_edit_again (apart : es.Pairwise Edit.Apart) (settle : ∀ e ∈ es, e.Settles)
    (given : ∀ e ∈ es, e.operand.WellFormed) (wf : doc.WellFormed) (object : doc.isObject = true)
    (made : es.foldlM Edit.apply doc = .ok a) :
    ∃ b, es.foldlM Edit.apply a = .ok b ∧ b.Reordered a ∧ a.WellFormed ∧ b.WellFormed := by
  obtain ⟨cs, amountTo, folds⟩ := (foldlM_edit_iff apart given wf object).1 made
  have wfs := amountTo.wellFormed wf given
  have wf' := foldlM_wellFormed wfs wf folds
  have object' := isObject_of_foldlM object folds
  obtain ⟨b, folds', same⟩ := foldlM_again (amountTo.pairwise apart) wfs wf folds
  have amountTo' := amountTo.again apart settle given wf object folds
  refine ⟨b, (foldlM_edit_iff apart given wf' object').2 ⟨cs, amountTo', folds'⟩, same, wf', ?_⟩
  exact foldlM_wellFormed wfs wf' folds'

/-! ## Updates -/

/-- The operators of an update and the fields in them, in another order. -/
inductive Rearranged : Fields → Fields → Prop
  | operators {us vs : Fields} (perm : us.Perm vs) : Rearranged us vs
  | fields (operator : String) {fs gs : Fields} (us : Fields) (perm : fs.Perm gs) :
    Rearranged ((operator, .obj fs) :: us) ((operator, .obj gs) :: us)
  | trans {us vs ws : Fields} (first : Rearranged us vs) (second : Rearranged vs ws) :
    Rearranged us ws

variable {us vs : Fields}

theorem Rearranged.edits_perm (h : Rearranged us vs) :
    (edits (.obj us)).Perm (edits (.obj vs)) := by
  induction h with
  | operators perm => exact perm.flatMap_right _
  | fields operator us perm => exact (perm.map _).append_right _
  | trans _ _ first second => exact first.trans second

theorem Rearranged.symm (h : Rearranged us vs) : Rearranged vs us := by
  induction h with
  | operators perm => exact .operators perm.symm
  | fields operator us perm => exact .fields operator us perm.symm
  | trans _ _ first second => exact .trans second first

theorem Rearranged.applicable (h : Rearranged us vs) (given : Applicable us) : Applicable vs := by
  induction h with
  | @operators us vs perm =>
    obtain ⟨some, named, objects⟩ := given
    constructor
    · rintro rfl
      exact some perm.eq_nil
    · exact fun o mem => named o (perm.mem_iff.2 mem)
    · exact fun o mem => objects o (perm.mem_iff.2 mem)
  | @fields operator fs gs us perm =>
    obtain ⟨-, named, objects⟩ := given
    constructor
    · exact List.cons_ne_nil _ _
    · exact List.forall_mem_cons.2 (List.forall_mem_cons.1 named)
    · exact List.forall_mem_cons.2 ⟨rfl, (List.forall_mem_cons.1 objects).2⟩
  | trans _ _ first second => exact second (first given)

theorem mem_edits : e ∈ edits (.obj us) ↔
    ∃ o ∈ us, e.operator = o.1 ∧ ∃ fs, o.2 = .obj fs ∧ (e.field, e.operand) ∈ fs := by
  constructor
  · intro mem
    obtain ⟨⟨operator, operands⟩, listed, inside⟩ := List.mem_flatMap.1 mem
    obtain ⟨⟨field, operand⟩, there, rfl⟩ := List.mem_map.1 inside
    cases operands with
    | obj fs => exact ⟨(operator, .obj fs), listed, rfl, fs, rfl, there⟩
    | _ => exact absurd there List.not_mem_nil
  · rintro ⟨⟨operator, operands⟩, mem, same, fs, object, there⟩
    obtain ⟨_, field, operand⟩ := e
    dsimp only at same object
    subst same object
    exact List.mem_flatMap.2 ⟨_, mem, List.mem_map.2 ⟨_, there, rfl⟩⟩

theorem wellFormed_operands (given : (Json.obj us).WellFormed) :
    ∀ e ∈ edits (.obj us), e.operand.WellFormed := by
  intro e mem
  obtain ⟨o, there, -, fs, object, mem⟩ := mem_edits.1 mem
  have operands := given.values o there
  rw [object] at operands
  exact operands.values _ mem

/-- An update that succeeds does so when it is rearranged, and leaves the same document. -/
theorem apply_rearranged (h : Rearranged us vs) (wf : doc.WellFormed) (object : doc.isObject = true)
    (given : ∀ e ∈ edits (.obj us), e.operand.WellFormed)
    (apart : (edits (.obj us)).Pairwise Edit.Apart) (made : apply doc (.obj us) = .ok a) :
    ∃ b, apply doc (.obj vs) = .ok b ∧ a.same b = true := by
  obtain ⟨applicable, folds⟩ := apply_eq_ok.1 made
  obtain ⟨b, folds', same, wfa, wfb⟩ :=
    foldlM_edit_perm h.edits_perm apart given wf object folds
  have made' := apply_eq_ok.2 ⟨h.applicable applicable, folds'⟩
  exact ⟨b, made', Json.same_of_reordered wfa wfb same⟩

/-- A document that an update leaves the same is not reported as changed. -/
theorem updateDocuments_of_same {filter update b : Json} {multi : Bool}
    (made : apply a update = .ok b) (same : b.same a = true) :
    (Store.updateDocuments filter update multi [a]).docs = [a] ∧
      (Store.updateDocuments filter update multi [a]).changed = [] := by
  rw [Store.updateDocuments]
  split
  · exact ⟨rfl, rfl⟩
  · exact ⟨rfl, rfl⟩
  · rw [made]
    dsimp only
    rw [if_pos same]
    cases multi <;> exact ⟨rfl, rfl⟩

/-- **Updates of paths that are apart.** Whether one succeeds and, up to the order of keys, which
document it leaves does not depend on the order of its operators and of their fields: each edit leaves
what it amounts to in the document as it was. If all it does is to set, to remove and to add what is
missing, then it succeeds again on the document that it leaves, and changes nothing. -/
theorem apply_rearranged_and_again (wf : doc.WellFormed) (object : doc.isObject = true)
    (given : (Json.obj us).WellFormed) (apart : (edits (.obj us)).Pairwise Edit.Apart) :
    (∀ vs, Rearranged us vs →
      ((∃ a, apply doc (.obj us) = .ok a) ↔ ∃ b, apply doc (.obj vs) = .ok b) ∧
      ∀ a b, apply doc (.obj us) = .ok a → apply doc (.obj vs) = .ok b → a.same b = true) ∧
    (∀ a, apply doc (.obj us) = .ok a → ∀ e ∈ edits (.obj us), ∃ c, Amounts doc e c ∧
      ∀ value, c.action = .write value → a.getPath? e.field = some value) ∧
    ((∀ o ∈ us, o.1 ∈ ["$set", "$unset", "$addToSet"]) → ∀ a, apply doc (.obj us) = .ok a →
      (∃ b, apply a (.obj us) = .ok b ∧ b.same a = true) ∧
      ∀ filter multi, (Store.updateDocuments filter (.obj us) multi [a]).docs = [a] ∧
        (Store.updateDocuments filter (.obj us) multi [a]).changed = []) := by
  have operands := wellFormed_operands given
  refine ⟨?_, ?_, ?_⟩
  · intro vs h
    have perm := h.edits_perm
    have apart' := (perm.pairwise_iff Path.Apart.symm).1 apart
    have operands' (e : Edit) (mem : e ∈ edits (.obj vs)) := operands e (perm.mem_iff.2 mem)
    refine ⟨⟨?_, ?_⟩, ?_⟩
    · rintro ⟨a, made⟩
      obtain ⟨b, made', -⟩ := apply_rearranged h wf object operands apart made
      exact ⟨b, made'⟩
    · rintro ⟨b, made⟩
      obtain ⟨a, made', -⟩ := apply_rearranged h.symm wf object operands' apart' made
      exact ⟨a, made'⟩
    · intro a b made made'
      obtain ⟨b', other, same⟩ := apply_rearranged h wf object operands apart made
      obtain rfl : b = b' := Except.ok.inj (made'.symm.trans other)
      exact same
  · intro a made e mem
    exact getPath?_of_foldlM_edit apart operands wf object (apply_eq_ok.1 made).2 mem
  · intro settling a made
    obtain ⟨applicable, folds⟩ := apply_eq_ok.1 made
    have settle : ∀ e ∈ edits (.obj us), e.Settles := by
      intro e mem
      obtain ⟨o, there, operator, -⟩ := mem_edits.1 mem
      rw [Edit.Settles, operator]
      exact settling o there
    obtain ⟨b, folds', same, wfa, wfb⟩ := foldlM_edit_again apart settle operands wf object folds
    have again : apply a (.obj us) = .ok b := apply_eq_ok.2 ⟨applicable, folds'⟩
    have unchanged := Json.same_of_reordered wfb wfa same
    exact ⟨⟨b, again, unchanged⟩, fun _ _ => updateDocuments_of_same again unchanged⟩

/-- An update with three operators, rearranged and made again. -/
theorem apply_rearranged_and_again_three :
    ∃ a b c, apply (.obj [("_id", .int 1), ("n", .int 3), ("tags", .arr [.str "x"])])
        (.obj [("$set", .obj [("s.t", .int 2), ("s.u", .null)]), ("$unset", .obj [("n", .bool true)]),
          ("$addToSet", .obj [("tags", .str "y")])]) = .ok a ∧
      apply (.obj [("_id", .int 1), ("n", .int 3), ("tags", .arr [.str "x"])])
        (.obj [("$addToSet", .obj [("tags", .str "y")]),
          ("$set", .obj [("s.u", .null), ("s.t", .int 2)]), ("$unset", .obj [("n", .bool true)])]) =
        .ok b ∧ a.same b = true ∧
      apply a (.obj [("$set", .obj [("s.t", .int 2), ("s.u", .null)]),
        ("$unset", .obj [("n", .bool true)]), ("$addToSet", .obj [("tags", .str "y")])]) = .ok c ∧
      c.same a = true := by
  have wf : (Json.obj [("_id", .int 1), ("n", .int 3), ("tags", .arr [.str "x"])]).WellFormed := by
    refine .obj (by decide) ?_
    simp only [List.forall_mem_cons]
    exact ⟨.num _, .num _, .arr (by simpa using .str _), nofun⟩
  have given : (Json.obj [("$set", .obj [("s.t", .int 2), ("s.u", .null)]),
      ("$unset", .obj [("n", .bool true)]), ("$addToSet", .obj [("tags", .str "y")])]).WellFormed := by
    refine .obj (by decide) ?_
    simp only [List.forall_mem_cons]
    refine ⟨.obj (by decide) ?_, .obj (by decide) ?_, .obj (by decide) ?_, nofun⟩
    · simp only [List.forall_mem_cons]
      exact ⟨.num _, .null, nofun⟩
    · simpa using .bool _
    · simpa using .str _
  have made : apply (.obj [("_id", .int 1), ("n", .int 3), ("tags", .arr [.str "x"])])
      (.obj [("$set", .obj [("s.t", .int 2), ("s.u", .null)]), ("$unset", .obj [("n", .bool true)]),
        ("$addToSet", .obj [("tags", .str "y")])]) =
      .ok (.obj [("_id", .int 1), ("s", .obj [("t", .int 2), ("u", .null)]),
        ("tags", .arr [.str "x", .str "y"])]) := by
    rfl
  have settling : ∀ o ∈ [("$set", Json.obj [("s.t", .int 2), ("s.u", .null)]),
      ("$unset", .obj [("n", .bool true)]), ("$addToSet", .obj [("tags", .str "y")])],
      o.1 ∈ ["$set", "$unset", "$addToSet"] := by
    simp
  have rearranged : Rearranged [("$set", .obj [("s.t", .int 2), ("s.u", .null)]),
      ("$unset", .obj [("n", .bool true)]), ("$addToSet", .obj [("tags", .str "y")])]
      [("$addToSet", .obj [("tags", .str "y")]), ("$set", .obj [("s.u", .null), ("s.t", .int 2)]),
        ("$unset", .obj [("n", .bool true)])] := by
    refine .trans (.fields _ _ (.swap _ _ _)) (.operators ?_)
    exact .trans (.cons _ (.swap _ _ _)) (.swap _ _ _)
  have all := apply_rearranged_and_again wf rfl given (by decide)
  obtain ⟨ordered, same⟩ := all.1 _ rearranged
  obtain ⟨b, made'⟩ := ordered.1 ⟨_, made⟩
  obtain ⟨⟨c, again, unchanged⟩, -⟩ := all.2.2 settling _ made
  exact ⟨_, b, c, made, made', same _ b made made', again, unchanged⟩

end

end Update

end DocStore
