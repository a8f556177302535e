import DocStore.Proofs.Store.ChangeStream

/-!
# Change streams that fail

The reads of a cursor on changes tile the log (`Store.Tiles`): each goes on where the one before it
left off, and no event is looked at twice. A read on which the pipeline fails stands behind the
event that it failed on, and drops what it had gathered before (`Store.Reading.Sound`). So an event
before it is returned, by that read's cursor at any time, exactly if no read that failed looked at it
(`Store.failing_reads`).
-/

namespace DocStore.Store

/-! ## Stretches of the log -/

/-- The events of a log from one place up to another. -/
def stretch (events : List ChangeEvent) (start stop : Nat) : List ChangeEvent :=
  (events.take stop).drop start

/-- The event at a place in the log is of the collection, and these documents come of it. -/
def PassesAt (collection : String) (pipeline : List Json) (events : List ChangeEvent) (i : Nat)
    (docs : List Json) : Prop :=
  ∃ e, events[i]? = some e ∧ e.collection = collection ∧
    Aggregation.run (fun _ => []) pipeline [e.toJson] = .ok docs ∧ docs ≠ []

/-- The event at a place in the log is of the collection, and the pipeline fails on it. -/
def FailsAt (collection : String) (pipeline : List Json) (events : List ChangeEvent) (i : Nat)
    (fault : Aggregation.Fault) : Prop :=
  ∃ e, events[i]? = some e ∧ e.collection = collection ∧
    Aggregation.run (fun _ => []) pipeline [e.toJson] = .error fault

section

variable {collection : String} {pipeline : List Json} {events longer : List ChangeEvent}
  {start middle stop i : Nat} {docs all : List Json} {fault : Aggregation.Fault}

theorem stretch_append (le : start ≤ middle) (le' : middle ≤ stop) (inLog : middle ≤ events.length) :
    stretch events start stop = stretch events start middle ++ stretch events middle stop := by
  have reached : start ≤ (events.take middle).length := by
    rw [List.length_take_of_le inLog]
    exact le
  have split : events.take stop = events.take middle ++ (events.take stop).drop middle := by
    have whole := List.take_append_drop middle (events.take stop)
    rw [List.take_take, Nat.min_eq_left le'] at whole
    exact whole.symm
  unfold stretch
  rw [split, List.drop_append_of_le_length reached, ← split]

theorem stretch_one {e : ChangeEvent} (here : events[i]? = some e) :
    stretch events i (i + 1) = [e] := by
  obtain ⟨lt, rfl⟩ := List.getElem?_eq_some_iff.1 here
  unfold stretch
  rw [List.take_succ_eq_append_getElem lt, List.drop_append_of_le_length (by simp; omega)]
  simp

/-- A stretch of the log stays as it is when the log grows. -/
theorem stretch_of_grown (grown : events <+: longer) (inLog : stop ≤ events.length) :
    stretch longer start stop = stretch events start stop := by
  obtain ⟨more, rfl⟩ := grown
  unfold stretch
  rw [List.take_append_of_le_length inLog]

theorem getElem?_of_grown {e : ChangeEvent} (grown : events <+: longer)
    (here : events[i]? = some e) : longer[i]? = some e := by
  obtain ⟨more, rfl⟩ := grown
  rw [List.getElem?_append_left (List.getElem?_eq_some_iff.1 here).1]
  exact here

/-- What passes of a stretch, around an event in it. -/
theorem passed_around (le : start ≤ i) (lt : i < stop) (inLog : stop ≤ events.length)
    (passes : passed collection pipeline (stretch events start stop) = .ok all)
    (here : PassesAt collection pipeline events i docs) :
    ∃ before after, passed collection pipeline (stretch events start i) = .ok before ∧
      passed collection pipeline (stretch events (i + 1) stop) = .ok after ∧
      all = before ++ docs ++ after := by
  obtain ⟨e, here, mine, ran, -⟩ := here
  rw [stretch_append le (Nat.le_of_lt lt) (by omega),
    stretch_append (Nat.le_succ i) lt (by omega), stretch_one here] at passes
  obtain ⟨before, later, earlier, both, rfl⟩ := passed_append_eq_ok.1 passes
  obtain ⟨one, after, ran', rest, rfl⟩ := passed_append_eq_ok.1 both
  rw [passed_singleton, if_pos (beq_iff_eq.2 mine), ran] at ran'
  obtain rfl : docs = one := Except.ok.inj ran'
  exact ⟨before, after, earlier, rest, (List.append_assoc ..).symm⟩

theorem exists_of_passed {xs : List ChangeEvent} (passes : passed collection pipeline xs = .ok all)
    (some : all ≠ []) : ∃ i docs, i < xs.length ∧ PassesAt collection pipeline xs i docs := by
  induction xs generalizing all with
  | nil =>
    cases passes
    exact absurd rfl some
  | cons e rest ih =>
    have split : passed collection pipeline ([e] ++ rest) = .ok all := passes
    obtain ⟨batch, others, one, later, rfl⟩ := passed_append_eq_ok.1 split
    by_cases empty : batch = []
    · subst empty
      obtain ⟨i, docs, lt, e', here, passesAt⟩ := ih later some
      exact ⟨i + 1, docs, Nat.succ_lt_succ lt, e', here, passesAt⟩
    · rw [passed_singleton] at one
      split at one
      · rename_i mine
        exact ⟨0, batch, Nat.succ_pos _, e, rfl, beq_iff_eq.1 mine, one, empty⟩
      · cases one
        exact absurd rfl empty

/-- What passes of a stretch comes of an event in it. -/
theorem exists_passesAt (passes : passed collection pipeline (stretch events start stop) = .ok all)
    (some : all ≠ []) :
    ∃ i docs, start ≤ i ∧ i < stop ∧ PassesAt collection pipeline events i docs := by
  obtain ⟨i, docs, lt, e, here, passesAt⟩ := exists_of_passed passes some
  unfold stretch at lt here
  rw [List.length_drop, List.length_take] at lt
  rw [List.getElem?_drop, List.getElem?_take_of_lt (by omega)] at here
  exact ⟨start + i, docs, Nat.le_add_right _ _, by omega, e, here, passesAt⟩

end

/-! ## One read -/

/-- A read of a cursor on changes: where it stood in the log before and after, how many documents it
asked for, and what it was answered. -/
structure Reading where
  start : Nat
  stop : Nat
  size : Nat
  answer : TransportResult (Option Batch)

namespace Reading

/-- The read has looked at the event at a place in the log. -/
def Covers (r : Reading) (i : Nat) : Prop := r.start ≤ i ∧ i < r.stop

/-- The documents that the reader got. -/
def documents (r : Reading) : List Json :=
  match r.answer with
  | .ok (some batch) => batch.documents
  | _ => []

/-- The reader got an error. -/
def Failed (r : Reading) : Prop := ∃ e, r.answer = .error e

section

variable (collection : String) (pipeline : List Json) (events : List ChangeEvent)

/-- The documents of an event are among those that the reader got, between those of the events
before it and those of the events after it. -/
def Returns (r : Reading) (i : Nat) (docs : List Json) : Prop :=
  r.Covers i ∧ ∃ before after, passed collection pipeline (stretch events r.start i) = .ok before ∧
    passed collection pipeline (stretch events (i + 1) r.stop) = .ok after ∧
    r.documents = before ++ docs ++ after

/-- These documents had passed when the read failed on the last event that it looked at. -/
def Loses (r : Reading) (docs : List Json) : Prop :=
  r.Failed ∧ ∃ j, r.stop = j + 1 ∧ passed collection pipeline (stretch events r.start j) = .ok docs

/-- What a read can be: it has looked at a stretch of the log, and returns what passes of it, or
fails on its last event, having gathered less than it was asked for. -/
inductive Sound (cursor : Nat) : Reading → Prop
  | passed {start stop size : Nat} {docs : List Json} (le : start ≤ stop)
    (inLog : stop ≤ events.length)
    (passes : passed collection pipeline (stretch events start stop) = .ok docs) :
    Sound cursor ⟨start, stop, size, answerOf cursor docs⟩
  | failed {start j size : Nat} {fault : Aggregation.Fault} {docs : List Json} (le : start ≤ j)
    (fails : FailsAt collection pipeline events j fault)
    (passes : Store.passed collection pipeline (stretch events start j) = .ok docs)
    (few : docs.length < max size 1) :
    Sound cursor ⟨start, j + 1, size, .error (Refusal.aggregation fault).toError⟩

end

variable {collection : String} {pipeline : List Json} {events longer : List ChangeEvent}
  {cursor i : Nat} {r : Reading} {docs : List Json}

theorem documents_answerOf (start stop size cursor : Nat) (docs : List Json) :
    documents ⟨start, stop, size, answerOf cursor docs⟩ = docs := by
  cases docs <;> rfl

theorem Sound.le (h : Sound collection pipeline events cursor r) : r.start ≤ r.stop := by
  cases h with
  | passed le => exact le
  | failed le => exact Nat.le_succ_of_le le

theorem Sound.of_grown (h : Sound collection pipeline events cursor r)
    (grown : events <+: longer) : Sound collection pipeline longer cursor r := by
  cases h with
  | passed le inLog passes =>
    rw [← stretch_of_grown grown inLog] at passes
    exact .passed le (Nat.le_trans inLog grown.length_le) passes
  | failed le fails passes few =>
    obtain ⟨e, here, mine, fails⟩ := fails
    have inLog := (List.getElem?_eq_some_iff.1 here).1
    rw [← stretch_of_grown grown (Nat.le_of_lt inLog)] at passes
    exact .failed le ⟨e, getElem?_of_grown grown here, mine, fails⟩ passes few

/-- **A read returns the documents of the events that it looks at, unless it fails.** -/
theorem Sound.returns_iff (h : Sound collection pipeline events cursor r) (covers : r.Covers i)
    (here : PassesAt collection pipeline events i docs) :
    r.Returns collection pipeline events i docs ↔ ¬ r.Failed := by
  constructor
  · rintro ⟨-, before, after, -, -, got⟩ ⟨e, failed⟩
    obtain ⟨_, -, -, -, some⟩ := here
    rw [documents, failed] at got
    simp [some] at got
  · intro fine
    cases h with
    | passed le inLog passes =>
      obtain ⟨before, after, earlier, later, whole⟩ :=
        passed_around covers.1 covers.2 inLog passes here
      exact ⟨covers, before, after, earlier, later, (documents_answerOf ..).trans whole⟩
    | failed => exact absurd ⟨_, rfl⟩ fine

/-- A read that fails loses the documents of the events that it has looked at, if there are any. -/
theorem Sound.loses (h : Sound collection pipeline events cursor r) (failed : r.Failed)
    (covers : r.Covers i) (here : PassesAt collection pipeline events i docs) :
    ∃ lost, r.Loses collection pipeline events lost ∧ lost ≠ [] := by
  cases h with
  | passed =>
    obtain ⟨_, failed⟩ := failed
    cases failed
  | @failed start j size fault gathered le fails passes few =>
    refine ⟨gathered, ⟨failed, j, rfl, passes⟩, ?_⟩
    obtain ⟨lower, upper⟩ : start ≤ i ∧ i < j + 1 := covers
    have before : i < j := by
      refine Nat.lt_of_le_of_ne (Nat.le_of_lt_succ upper) ?_
      rintro rfl
      obtain ⟨e, found, -, ran, -⟩ := here
      obtain ⟨e', found', -, fails⟩ := fails
      obtain rfl : e = e' := Option.some.inj (found.symm.trans found')
      rw [ran] at fails
      cases fails
    have inLog : j ≤ events.length := by
      obtain ⟨_, found, -⟩ := fails
      exact Nat.le_of_lt (List.getElem?_eq_some_iff.1 found).1
    obtain ⟨first, rest, -, -, whole⟩ := passed_around lower before inLog passes here
    obtain ⟨_, -, -, -, some⟩ := here
    rw [whole]
    simp [some]

theorem Sound.lost_lt (h : Sound collection pipeline events cursor r)
    (loses : r.Loses collection pipeline events docs) : docs.length < max r.size 1 := by
  obtain ⟨⟨_, failed⟩, j, stop, passes⟩ := loses
  cases h with
  | passed => cases failed
  | failed le fails passes' few =>
    obtain rfl := Nat.succ.inj stop
    rw [passes'] at passes
    cases passes
    exact few

end Reading

/-! ## Reads one after the other -/

/-- Each read goes on where the one before it left off, from one place in the log to another. -/
def Tiles : Nat → List Reading → Nat → Prop
  | start, [], stop => start = stop
  | start, r :: rest, stop => r.start = start ∧ r.start ≤ r.stop ∧ Tiles r.stop rest stop

section

variable {start middle stop i : Nat} {reads more : List Reading} {r q : Reading}

theorem Tiles.le (h : Tiles start reads stop) : start ≤ stop := by
  induction reads generalizing start with
  | nil => exact Nat.le_of_eq h
  | cons r rest ih =>
    obtain ⟨rfl, le, later⟩ := h
    exact Nat.le_trans le (ih later)

theorem Tiles.append (h : Tiles start reads middle) (h' : Tiles middle more stop) :
    Tiles start (reads ++ more) stop := by
  induction reads generalizing start with
  | nil =>
    obtain rfl : start = middle := h
    exact h'
  | cons r rest ih =>
    obtain ⟨first, le, later⟩ := h
    exact ⟨first, le, ih later⟩

theorem Tiles.within (h : Tiles start reads stop) (mem : r ∈ reads) :
    start ≤ r.start ∧ r.stop ≤ stop := by
  induction reads generalizing start with
  | nil => cases mem
  | cons q rest ih =>
    obtain ⟨rfl, le, later⟩ := h
    rcases List.mem_cons.1 mem with rfl | mem
    · exact ⟨Nat.le_refl _, later.le⟩
    · obtain ⟨lower, upper⟩ := ih later mem
      exact ⟨Nat.le_trans le lower, upper⟩

/-- Every event is looked at. -/
theorem Tiles.exists_covers (h : Tiles start reads stop) (lower : start ≤ i) (upper : i < stop) :
    ∃ r ∈ reads, r.Covers i := by
  induction reads generalizing start with
  | nil =>
    obtain rfl : start = stop := h
    omega
  | cons q rest ih =>
    obtain ⟨rfl, le, later⟩ := h
    by_cases here : i < q.stop
    · exact ⟨q, List.mem_cons_self, lower, here⟩
    · obtain ⟨r, mem, covers⟩ := ih later (Nat.le_of_not_lt here)
      exact ⟨r, List.mem_cons_of_mem q mem, covers⟩

/-- No event is looked at twice. -/
theorem Tiles.eq_of_covers (h : Tiles start reads stop) (mem : r ∈ reads) (mem' : q ∈ reads)
    (covers : r.Covers i) (covers' : q.Covers i) : r = q := by
  induction reads generalizing start with
  | nil => cases mem
  | cons first rest ih =>
    obtain ⟨rfl, le, later⟩ := h
    have apart {p : Reading} (mem : p ∈ rest) (here : p.Covers i) : ¬ first.Covers i := by
      intro there
      have after := Nat.le_trans (later.within mem).1 here.1
      exact absurd (Nat.lt_of_lt_of_le there.2 after) (Nat.lt_irrefl i)
    rcases List.mem_cons.1 mem with rfl | here
    · rcases List.mem_cons.1 mem' with rfl | there
      · rfl
      · exact absurd covers (apart there covers')
    · rcases List.mem_cons.1 mem' with rfl | there
      · exact absurd covers' (apart here covers)
      · exact ih later here there

/-- Reads follow each other in the order of the events that they look at. -/
theorem Tiles.stop_le (h : Tiles start reads stop) (mem : q ∈ reads) (mem' : r ∈ reads)
    (covers : q.Covers i) (covers' : r.Covers middle) (le : i ≤ middle) : q.stop ≤ r.stop := by
  by_contra longer
  have both : q.Covers middle := by
    refine ⟨Nat.le_trans covers.1 le, ?_⟩
    exact Nat.lt_trans covers'.2 (Nat.lt_of_not_le longer)
  have same := h.eq_of_covers mem mem' both covers'
  exact longer (Nat.le_of_eq (congrArg Reading.stop same))

end

/-! ## The reads of a run -/

/-- Where a cursor on changes stands in the log. -/
def positionOf (s : Store) (cursor : Nat) : Nat :=
  match s.cursors.get? cursor with
  | some (.tailing _ _ position) => position
  | _ => 0

/-- The read of a cursor, if that is what happens. -/
def readsOf (cursor : Nat) (s : Store) : Activity → List Reading
  | .nextBatch other size =>
    if other = cursor then
      [{ start := s.positionOf cursor, stop := (s.nextBatch cursor size).2.positionOf cursor, size,
         answer := (s.nextBatch cursor size).1 }]
    else []
  | _ => []

/-- The reads of a cursor in a run. -/
def readsIn (cursor : Nat) : Store → List Activity → List Reading
  | _, [] => []
  | s, a :: rest => readsOf cursor s a ++ readsIn cursor (s.after a) rest

/-- A cursor on the changes of a collection stands at a place in the log. -/
structure Stands (collection : String) (pipeline : List Json) (cursor position : Nat) (s : Store) :
    Prop where
  state : s.cursors.get? cursor = some (.tailing collection pipeline position)
  known : cursor < s.nextCursor
  inLog : position ≤ s.events.length

section

variable {collection : String} {pipeline : List Json} {cursor position : Nat} {s : Store}

theorem delivered_eq_flatMap (cursor : Nat) (s : Store) (activities : List Activity) :
    delivered cursor s activities = (readsIn cursor s activities).flatMap Reading.documents := by
  induction activities generalizing s with
  | nil => rfl
  | cons a rest ih =>
    rw [delivered, readsIn, List.flatMap_append, ih]
    congr 1
    cases a with
    | nextBatch other size =>
      by_cases mine : other = cursor
      · rw [brought, readsOf, if_pos mine, if_pos mine, List.flatMap_singleton]
        rfl
      · rw [brought, readsOf, if_neg mine, if_neg mine]
        rfl
    | _ => rfl

/-- What a read comes to that has gathered documents and has these events before it: it looks at
some of them, and gathers what passes of these; or the pipeline fails on one, before there is
enough. -/
def Looks (collection : String) (pipeline : List Json) (size : Nat) (gathered : List Json)
    (xs : List ChangeEvent) (r : Nat × Except Refusal (List Json)) : Prop :=
  (∃ n docs, r = (n, .ok (gathered ++ docs)) ∧ n ≤ xs.length ∧
      passed collection pipeline (xs.take n) = .ok docs) ∨
    ∃ n fault docs, r = (n + 1, .error (.aggregation fault)) ∧
      FailsAt collection pipeline xs n fault ∧
      passed collection pipeline (xs.take n) = .ok docs ∧ (gathered ++ docs).length < size

theorem Looks.cons {size : Nat} {gathered batch : List Json} {e : ChangeEvent}
    {later : List ChangeEvent} {r : Nat × Except Refusal (List Json)}
    (h : Looks collection pipeline size (gathered ++ batch) later r)
    (passes : passed collection pipeline [e] = .ok batch) :
    Looks collection pipeline size gathered (e :: later) (r.1 + 1, r.2) := by
  have join {n : Nat} {docs : List Json}
      (rest : passed collection pipeline (later.take n) = .ok docs) :
      passed collection pipeline ((e :: later).take (n + 1)) = .ok (batch ++ docs) :=
    passed_append_eq_ok.2 ⟨batch, docs, passes, rest, rfl⟩
  rcases h with ⟨n, docs, rfl, le, rest⟩ | ⟨n, fault, docs, rfl, ⟨e', fails⟩, rest, few⟩
  · rw [List.append_assoc]
    exact .inl ⟨n + 1, batch ++ docs, rfl, Nat.succ_le_succ le, join rest⟩
  · rw [List.append_assoc] at few
    exact .inr ⟨n + 1, fault, batch ++ docs, rfl, ⟨e', fails⟩, join rest, few⟩

theorem looks_follow (collection : String) (pipeline : List Json) (size : Nat) (gathered : List Json)
    (xs : List ChangeEvent) :
    Looks collection pipeline size gathered xs (follow collection pipeline size gathered xs) := by
  induction xs generalizing gathered with
  | nil => exact .inl ⟨0, [], by simp [follow], Nat.le_refl 0, passed_nil⟩
  | cons e later ih =>
    by_cases enough : size ≤ gathered.length
    · exact .inl ⟨0, [], by simp [follow, enough], Nat.zero_le _, passed_nil⟩
    · have one : passed collection pipeline [e] = _ := passed_singleton e
      rw [follow, if_neg enough]
      split
      · rename_i mine
        rw [if_pos mine] at one
        cases ran : Aggregation.run (fun _ => []) pipeline [e.toJson] with
        | error fault =>
          have few : (gathered ++ []).length < size := by
            rw [List.append_nil]
            omega
          exact .inr ⟨0, fault, [], rfl, ⟨e, rfl, beq_iff_eq.1 mine, ran⟩, passed_nil, few⟩
        | ok batch =>
          apply Looks.cons (ih (gathered ++ batch))
          exact one.trans ran
      · rename_i other
        rw [if_neg other] at one
        have rest := ih (gathered ++ [])
        rw [List.append_nil] at rest
        apply Looks.cons _ one
        rw [List.append_nil]
        exact rest

/-- **A read moves the cursor on, and is sound.** -/
theorem Stands.read (h : Stands collection pipeline cursor position s) (size : Nat) :
    ∃ stop, Stands collection pipeline cursor stop (s.nextBatch cursor size).2 ∧
      Reading.Sound collection pipeline s.events cursor
        ⟨position, stop, size, (s.nextBatch cursor size).1⟩ := by
  have tail (n : Nat) : (s.events.drop position).take n = stretch s.events position (position + n) := by
    rw [stretch, List.drop_take, Nat.add_sub_cancel_left]
  have room := h.inLog
  unfold nextBatch
  dsimp only
  rw [h.state]
  dsimp only
  rcases looks_follow collection pipeline (max size 1) [] (s.events.drop position) with
    ⟨n, docs, looked, le, passes⟩ | ⟨n, fault, docs, looked, ⟨e, here, fails⟩, passes, few⟩
  · rw [List.nil_append] at looked
    rw [List.length_drop] at le
    rw [tail] at passes
    rw [looked]
    have inLog : position + n ≤ s.events.length := by omega
    have sound : Reading.Sound collection pipeline s.events cursor
        ⟨position, position + n, size, answerOf cursor docs⟩ :=
      .passed (Nat.le_add_right _ _) inLog passes
    have stands : Stands collection pipeline cursor (position + n) { s with
        cursors := s.cursors.insert cursor (.tailing collection pipeline (position + n)) } :=
      ⟨Dictionary.get?_insert_self .., h.known, inLog⟩
    cases docs with
    | nil => exact ⟨position + n, stands, sound⟩
    | cons doc docs => exact ⟨position + n, stands, sound⟩
  · rw [List.getElem?_drop] at here
    rw [tail] at passes
    rw [looked]
    have inLog := (List.getElem?_eq_some_iff.1 here).1
    exact ⟨position + n + 1, ⟨Dictionary.get?_insert_self .., h.known, inLog⟩,
      .failed (Nat.le_add_right _ _) ⟨e, here, fails⟩ passes few⟩

/-- Whatever happens, a cursor that is not closed stands where its reads have led it. -/
theorem Stands.after (h : Stands collection pipeline cursor position s) {a : Activity}
    (kept : a ≠ .killCursor cursor) :
    ∃ stop, Stands collection pipeline cursor stop (s.after a) ∧
      Tiles position (readsOf cursor s a) stop ∧
      ∀ r ∈ readsOf cursor s a, r.Sound collection pipeline s.events cursor := by
  have grown := s.events_after a
  by_cases used : a.Uses cursor
  · cases a with
    | nextBatch other size =>
      obtain rfl : other = cursor := used
      obtain ⟨stop, stands, sound⟩ := h.read size
      have begins : s.positionOf other = position := by rw [positionOf, h.state]
      have ends : (s.nextBatch other size).2.positionOf other = stop := by
        rw [positionOf, stands.state]
      have read : readsOf other s (.nextBatch other size) =
          [⟨position, stop, size, (s.nextBatch other size).1⟩] := by
        rw [readsOf, if_pos rfl, begins, ends]
      rw [read]
      exact ⟨stop, stands, ⟨rfl, sound.le, rfl⟩, List.forall_mem_singleton.2 sound⟩
    | killCursor other => exact absurd (congrArg Activity.killCursor used) kept
    | _ => exact used.elim
  · obtain ⟨same, known⟩ := cursor_after h.known used
    have nothing : readsOf cursor s a = [] := by
      cases a with
      | nextBatch other size => exact if_neg used
      | _ => rfl
    rw [nothing]
    refine ⟨position, ⟨same.trans h.state, known, ?_⟩, rfl, fun _ mem => absurd mem List.not_mem_nil⟩
    exact Nat.le_trans h.inLog grown.length_le

/-- **The reads of a run tile the log, and each of them is sound.** -/
theorem Stands.afterAll {activities : List Activity}
    (h : Stands collection pipeline cursor position s) (kept : .killCursor cursor ∉ activities) :
    ∃ stop, Tiles position (readsIn cursor s activities) stop ∧
      ∀ r ∈ readsIn cursor s activities,
        r.Sound collection pipeline (s.afterAll activities).events cursor := by
  induction activities generalizing s position with
  | nil => exact ⟨position, rfl, fun _ mem => absurd mem List.not_mem_nil⟩
  | cons a rest ih =>
    obtain ⟨here, later⟩ := not_or.1 (mt List.mem_cons.2 kept)
    obtain ⟨middle, stands, tiles, sound⟩ := h.after (Ne.symm here)
    obtain ⟨stop, tiles', sound'⟩ := ih stands later
    refine ⟨stop, tiles.append tiles', fun r mem => ?_⟩
    rcases List.mem_append.1 mem with mem | mem
    · exact (sound r mem).of_grown (s.events_afterAll (a :: rest))
    · exact sound' r mem

end

/-! ## What failing reads lose -/

section

variable {collection : String} {pipeline : List Json} {events : List ChangeEvent} {cursor : Nat}
  {start stop i j : Nat} {reads : List Reading} {r : Reading} {docs : List Json}

/-- The documents of an event are returned exactly if no read that failed looked at it. -/
theorem Tiles.returned_iff (tiles : Tiles start reads stop)
    (sound : ∀ r ∈ reads, r.Sound collection pipeline events cursor) (upper : i < stop)
    (here : PassesAt collection pipeline events i docs) :
    (∃ q ∈ reads, q.Returns collection pipeline events i docs) ↔
      start ≤ i ∧ ∀ q ∈ reads, q.Covers i → ¬ q.Failed := by
  constructor
  · rintro ⟨q, mem, returns⟩
    have covers := returns.1
    refine ⟨Nat.le_trans (tiles.within mem).1 covers.1, fun p mem' covers' => ?_⟩
    obtain rfl := tiles.eq_of_covers mem mem' covers covers'
    exact ((sound q mem).returns_iff covers here).1 returns
  · rintro ⟨lower, fine⟩
    obtain ⟨q, mem, covers⟩ := tiles.exists_covers lower upper
    exact ⟨q, mem, ((sound q mem).returns_iff covers here).2 (fine q mem covers)⟩

/-- What comes of the events of a stretch is returned by these reads. -/
def AllReturned (collection : String) (pipeline : List Json) (events : List ChangeEvent)
    (reads : List Reading) (start stop : Nat) : Prop :=
  ∀ i docs, start ≤ i → i < stop → PassesAt collection pipeline events i docs →
    ∃ q ∈ reads, q.Returns collection pipeline events i docs

/-- All that comes before the last event of a read is returned exactly if no read that failed by
then had gathered anything. -/
theorem Tiles.allReturned_iff (tiles : Tiles start reads stop)
    (sound : ∀ r ∈ reads, r.Sound collection pipeline events cursor) (mem : r ∈ reads)
    (last : r.Covers j) (ends : r.stop = j + 1) :
    AllReturned collection pipeline events reads start j ↔
      ∀ q ∈ reads, q.stop ≤ r.stop → ∀ lost, q.Loses collection pipeline events lost →
        lost = [] := by
  have upper := (tiles.within mem).2
  rw [ends] at upper
  constructor
  · intro all q mem' early lost loses
    by_contra some
    obtain ⟨failed, k, stops, passes⟩ := loses
    obtain ⟨i, docs, lower, lt, here⟩ := exists_passesAt passes some
    have since : start ≤ i := Nat.le_trans (tiles.within mem').1 lower
    have before : i < j := by omega
    obtain ⟨-, fine⟩ := (tiles.returned_iff sound (by omega) here).1 (all i docs since before here)
    exact fine q mem' ⟨lower, by omega⟩ failed
  · intro none i docs lower lt here
    refine (tiles.returned_iff sound (by omega) here).2 ⟨lower, fun q mem' covers failed => ?_⟩
    obtain ⟨lost, loses, some⟩ := (sound q mem').loses failed covers here
    have early := tiles.stop_le mem' mem covers last (Nat.le_of_lt lt)
    exact some (none q mem' early lost loses)

/-- **What a failing read of a change stream loses.** Whatever happens to the store, as long as the
cursor is not closed: a read answers with an error only where the pipeline fails on an event of the
collection, and stops behind that event. What it had gathered until then is less than it was asked
for, and it is lost: the documents of an event before are returned by some read of the cursor, earlier
or later, exactly if no read that failed has looked at the event. So all of them are returned exactly
if neither this read nor one before it failed with documents gathered, which is so if all reads ask
for one document at a time. -/
theorem failing_reads {s : Store} {state : CursorState}
    (captured : s.cursorState (.watch collection pipeline) = .ok state)
    (meanwhile later : List Activity)
    (kept : .killCursor (s.afterAll meanwhile).nextCursor ∉ later) :
    let cursor := (s.afterAll meanwhile).nextCursor
    let opened := (s.afterAll meanwhile).register state
    let events := (opened.afterAll later).events
    let reads := readsIn cursor opened later
    delivered cursor opened later = reads.flatMap Reading.documents ∧
      ∀ r ∈ reads, ∀ error, r.answer = .error error →
        ∃ j fault gathered, r.start ≤ j ∧ r.stop = j + 1 ∧
          FailsAt collection pipeline events j fault ∧
          error = (Refusal.aggregation fault).toError ∧
          r.Loses collection pipeline events gathered ∧ gathered.length < max r.size 1 ∧
          (∀ i < j, ∀ docs, PassesAt collection pipeline events i docs →
            ((∃ q ∈ reads, q.Returns collection pipeline events i docs) ↔
              s.events.length ≤ i ∧ ∀ q ∈ reads, q.Covers i → ¬ q.Failed)) ∧
          (AllReturned collection pipeline events reads s.events.length j ↔
            ∀ q ∈ reads, q.stop ≤ r.stop → ∀ lost, q.Loses collection pipeline events lost →
              lost = []) ∧
          ((∀ q ∈ reads, q.size ≤ 1) →
            AllReturned collection pipeline events reads s.events.length j) := by
  intro cursor opened events reads
  have stands : Stands collection pipeline cursor s.events.length opened := by
    obtain rfl := state_of_watch captured
    have grown := (s.events_afterAll meanwhile).length_le
    exact ⟨Dictionary.get?_insert_self .., Nat.lt_succ_self _, grown⟩
  obtain ⟨stop, tiles, sound⟩ := stands.afterAll kept
  refine ⟨delivered_eq_flatMap cursor opened later, fun r mem error answered => ?_⟩
  have within := tiles.within mem
  cases sound r mem with
  | @passed start stop size docs le inLog passes => cases answered
  | @failed start j size fault gathered le fails passes few =>
    cases answered
    have last : Reading.Covers ⟨start, j + 1, size, .error (Refusal.aggregation fault).toError⟩ j :=
      ⟨le, Nat.lt_succ_self j⟩
    have all := tiles.allReturned_iff sound mem last rfl
    refine ⟨j, fault, gathered, le, rfl, fails, rfl, ⟨⟨_, rfl⟩, j, rfl, passes⟩, few, ?_, all, ?_⟩
    · exact fun i lt docs here =>
        tiles.returned_iff sound (Nat.lt_of_lt_of_le (Nat.lt_succ_of_lt lt) within.2) here
    · intro small
      refine all.2 fun q mem' _ lost loses => ?_
      have few := (sound q mem').lost_lt loses
      have one := small q mem'
      exact List.length_eq_zero_iff.1 (by omega)

end

/-- The second of two events makes the pipeline fail, so that the first read of both loses the first
event; the read after it finds nothing. -/
theorem failing_reads_nested :
    let pipeline : List Json := [.obj [("$unwind", .str "$fullDocument.a.0")]]
    let later : List Activity :=
      [.execute (.insert "c" [.obj [("_id", .int 1), ("a", .arr [.int 5])],
          .obj [("_id", .int 2), ("a", .arr [.arr [.int 1]])]] true),
        .nextBatch 1 2, .nextBatch 1 2]
    let opened := register {} (.tailing "c" pipeline 0)
    let events := (opened.afterAll later).events
    ∃ r rest, readsIn 1 opened later = r :: rest ∧ r.Covers 0 ∧
      ∃ j fault gathered, r.start ≤ j ∧ r.stop = j + 1 ∧ FailsAt "c" pipeline events j fault ∧
        r.answer = .error (Refusal.aggregation fault).toError ∧
        r.Loses "c" pipeline events gathered ∧ gathered.length < 2 ∧
        ∀ i < j, ∀ docs, PassesAt "c" pipeline events i docs →
          ((∃ q ∈ r :: rest, q.Returns "c" pipeline events i docs) ↔
            0 ≤ i ∧ ∀ q ∈ r :: rest, q.Covers i → ¬ q.Failed) := by
  intro pipeline later opened events
  have captured : Store.cursorState {} (.watch "c" pipeline) = .ok (.tailing "c" pipeline 0) := rfl
  have shape : (readsIn 1 opened later).map
      (fun r => (r.start, r.stop, r.size, r.answer.toOption.isSome)) =
        [(0, 2, 2, false), (2, 2, 2, true)] := by decide +kernel
  obtain ⟨r, rest, reads, first, -⟩ := List.map_eq_cons_iff.1 shape
  obtain ⟨start, stop, size, answer⟩ := r
  cases answer with
  | ok batch => cases first
  | error error =>
    obtain ⟨rfl, rfl, rfl, -⟩ : start = 0 ∧ stop = 2 ∧ size = 2 ∧ _ := by simpa using first
    obtain ⟨-, all⟩ := failing_reads captured [] later (by simp [later])
    have mem : ⟨0, 2, 2, .error error⟩ ∈ readsIn 1 opened later := reads ▸ List.mem_cons_self
    obtain ⟨j, fault, gathered, le, stop, fails, rfl, loses, few, returned, -⟩ :=
      all ⟨0, 2, 2, .error error⟩ mem error rfl
    refine ⟨_, rest, reads, ⟨Nat.le_refl 0, Nat.succ_pos 1⟩, j, fault, gathered, le, stop, fails, rfl,
      loses, few, ?_⟩
    rw [← reads]
    exact returned

/-- The first of two events passes, but comes to no reader that asks for two documents: the read
fails on the second event, and the next read finds nothing. Who asks for one gets it. -/
theorem event_lost :
    let pipeline : List Json := [.obj [("$unwind", .str "$fullDocument.a.0")]]
    let insertion : Activity :=
      .execute (.insert "c" [.obj [("_id", .int 1), ("a", .arr [.int 5])],
        .obj [("_id", .int 2), ("a", .arr [.arr [.int 1]])]] true)
    let opened := register {} (.tailing "c" pipeline 0)
    let reads := readsIn 1 opened [insertion, .nextBatch 1 2, .nextBatch 1 2]
    (passed "c" pipeline (opened.after insertion).events[0]?.toList).toOption.map List.length =
        some 1 ∧
      (passed "c" pipeline (opened.after insertion).events[1]?.toList).toOption.isNone ∧
      reads.map (fun r => (r.start, r.stop, r.answer.toOption.isNone)) =
        [(0, 2, true), (2, 2, false)] ∧
      delivered 1 opened [insertion, .nextBatch 1 2, .nextBatch 1 2] = [] ∧
      (delivered 1 opened [insertion, .nextBatch 1 1, .nextBatch 1 1]).length = 1 := by
  intro pipeline insertion opened reads
  refine ⟨?_, ?_, ?_, ?_, ?_⟩ <;> decide +kernel

end DocStore.Store
