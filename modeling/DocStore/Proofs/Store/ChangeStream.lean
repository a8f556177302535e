import DocStore.Proofs.Store.Activity

/-!
# Change streams

A cursor on the changes of a collection has delivered, at every moment, what its pipeline makes of
the events of the collection from its opening up to its position in the log (`Store.Follows`).
Reading moves the position on, and nothing else does, so that no event is lost and none comes twice
(`Store.stream_delivered`), whatever else happens to the store between two reads.
-/

namespace DocStore.Store

open Fallible (bind_eq_ok)

/-! ## Events through a pipeline -/

/-- What a pipeline makes of each event of a collection, in the order of the events. -/
def passed (collection : String) (pipeline : List Json) (events : List ChangeEvent) :
    Except Aggregation.Fault (List Json) := do
  let batches ← (events.filter fun e => e.collection == collection).mapM fun e =>
    Aggregation.run (fun _ => []) pipeline [e.toJson]
  pure batches.flatten

section

variable {collection : String} {pipeline : List Json} {xs ys : List ChangeEvent} {docs : List Json}

theorem passed_nil : passed collection pipeline [] = .ok [] := rfl

theorem passed_append_eq_ok :
    passed collection pipeline (xs ++ ys) = .ok docs ↔
      ∃ first second, passed collection pipeline xs = .ok first ∧
        passed collection pipeline ys = .ok second ∧ docs = first ++ second := by
  unfold passed
  rw [List.filter_append, List.mapM_append]
  constructor
  · intro h
    obtain ⟨batches, hb, h⟩ := bind_eq_ok.1 h
    obtain ⟨first, hf, hb⟩ := bind_eq_ok.1 hb
    obtain ⟨second, hs, hb⟩ := bind_eq_ok.1 hb
    cases hb
    cases h
    exact ⟨first.flatten, second.flatten, bind_eq_ok.2 ⟨first, hf, rfl⟩,
      bind_eq_ok.2 ⟨second, hs, rfl⟩, List.flatten_append⟩
  · rintro ⟨_, _, hx, hy, rfl⟩
    obtain ⟨first, hf, hx⟩ := bind_eq_ok.1 hx
    obtain ⟨second, hs, hy⟩ := bind_eq_ok.1 hy
    cases hx
    cases hy
    refine bind_eq_ok.2 ⟨first ++ second, bind_eq_ok.2 ⟨first, hf, bind_eq_ok.2 ⟨second, hs, rfl⟩⟩, ?_⟩
    rw [List.flatten_append]
    rfl

/-- What passes of the earlier events comes first. -/
theorem passed_of_prefix (h : xs <+: ys) (all : passed collection pipeline ys = .ok docs) :
    ∃ first, passed collection pipeline xs = .ok first ∧ first <+: docs := by
  obtain ⟨later, rfl⟩ := h
  obtain ⟨first, second, hf, -, rfl⟩ := passed_append_eq_ok.1 all
  exact ⟨first, hf, List.prefix_append first second⟩

/-- What passes of one event. -/
theorem passed_singleton (e : ChangeEvent) :
    passed collection pipeline [e] =
      if e.collection == collection then Aggregation.run (fun _ => []) pipeline [e.toJson]
      else .ok [] := by
  unfold passed
  by_cases mine : e.collection == collection
  · simp only [List.filter_cons, mine, if_true, List.filter_nil, List.mapM_cons, List.mapM_nil]
    cases Aggregation.run (fun _ => []) pipeline [e.toJson] with
    | error fault => rfl
    | ok batch => exact congrArg Except.ok (List.append_nil batch)
  · simp only [List.filter_cons, mine]
    rfl

/-- A read looks at events until it has enough documents, and gathers what passes of them. -/
theorem follow_eq (size : Nat) (gathered : List Json)
    (all : passed collection pipeline xs = .ok docs) :
    ∃ n taken, follow collection pipeline size gathered xs = (n, .ok (gathered ++ taken)) ∧
      n ≤ xs.length ∧ passed collection pipeline (xs.take n) = .ok taken ∧
      (n = xs.length ∨ size ≤ (gathered ++ taken).length) := by
  induction xs generalizing gathered docs with
  | nil => exact ⟨0, [], by simp [follow], Nat.le_refl 0, passed_nil, .inl rfl⟩
  | cons e later ih =>
    have split : passed collection pipeline ([e] ++ later) = .ok docs := all
    obtain ⟨batch, rest, one, others, -⟩ := passed_append_eq_ok.1 split
    -- What the read of the later events gathers, once this one has passed.
    obtain ⟨n, taken, looked, le, hn, stop⟩ := ih (gathered ++ batch) others
    have more : passed collection pipeline ((e :: later).take (n + 1)) = .ok (batch ++ taken) :=
      passed_append_eq_ok.2 ⟨batch, taken, one, hn, rfl⟩
    rw [List.append_assoc] at looked stop
    have stop : n + 1 = (e :: later).length ∨ size ≤ (gathered ++ (batch ++ taken)).length :=
      stop.imp_left (congrArg (· + 1))
    rw [passed_singleton] at one
    rw [follow]
    split
    · rename_i enough
      exact ⟨0, [], by simp, Nat.zero_le _, passed_nil, .inr (by simpa using enough)⟩
    · split
      · rename_i mine
        rw [if_pos mine] at one
        rw [one]
        dsimp only
        rw [looked]
        exact ⟨n + 1, batch ++ taken, rfl, Nat.succ_le_succ le, more, stop⟩
      · rename_i other
        rw [if_neg other] at one
        cases one
        rw [List.append_nil] at looked
        rw [looked]
        exact ⟨n + 1, [] ++ taken, rfl, Nat.succ_le_succ le, more, stop⟩

end

/-! ## A cursor on the log -/

/-- A cursor stands at a position of the log, and has delivered what passes of the events of a
collection from where it started. -/
structure Follows (collection : String) (pipeline : List Json) (start cursor position : Nat)
    (sent : List Json) (s : Store) : Prop where
  state : s.cursors.get? cursor = some (.tailing collection pipeline position)
  known : cursor < s.nextCursor
  started : start ≤ position
  inLog : position ≤ s.events.length
  sent : passed collection pipeline ((s.events.take position).drop start) = .ok sent

section

variable {collection : String} {pipeline : List Json} {start cursor position : Nat}
  {sent docs : List Json} {s t : Store}

/-- A cursor follows the log as long as nobody reads it and the log only grows. -/
theorem Follows.keep (h : Follows collection pipeline start cursor position sent s)
    (same : t.cursors.get? cursor = s.cursors.get? cursor) (known : cursor < t.nextCursor)
    (grown : s.events <+: t.events) :
    Follows collection pipeline start cursor position sent t := by
  obtain ⟨later, more⟩ := grown
  have front : t.events.take position = s.events.take position := by
    rw [← more, List.take_append_of_le_length h.inLog]
  refine ⟨same.trans h.state, known, h.started, ?_, ?_⟩
  · rw [← more, List.length_append]
    exact Nat.le_trans h.inLog (Nat.le_add_right _ _)
  · rw [front]
    exact h.sent

/-- What a cursor has delivered is the beginning of what passes of the log. -/
theorem Follows.sent_prefix (h : Follows collection pipeline start cursor position sent s)
    (all : passed collection pipeline (s.events.drop start) = .ok docs) : sent <+: docs := by
  have early : (s.events.take position).drop start <+: s.events.drop start := by
    rw [List.drop_take]
    exact List.take_prefix _ _
  obtain ⟨first, passes, le⟩ := passed_of_prefix early all
  obtain rfl : sent = first := Except.ok.inj (h.sent.symm.trans passes)
  exact le

/-- The answer to a read that found these documents. -/
def answerOf (cursor : Nat) (batch : List Json) : TransportResult (Option Batch) :=
  .ok (if batch.isEmpty then none else some ⟨cursor, batch⟩)

/-- **A read delivers what comes next**, and nothing only if nothing is left. -/
theorem Follows.read (h : Follows collection pipeline start cursor position sent s) (size : Nat)
    (all : passed collection pipeline (s.events.drop start) = .ok docs) :
    ∃ position batch, (s.nextBatch cursor size).1 = answerOf cursor batch ∧
      Follows collection pipeline start cursor position (sent ++ batch) (s.nextBatch cursor size).2 ∧
      (batch = [] → sent = docs) := by
  have reached : start ≤ (s.events.take position).length := by
    rw [List.length_take_of_le h.inLog]
    exact h.started
  have whole : s.events.drop start =
      (s.events.take position).drop start ++ s.events.drop position := by
    rw [← List.drop_append_of_le_length reached, List.take_append_drop]
  rw [whole] at all
  obtain ⟨first, rest, hf, hrest, rfl⟩ := passed_append_eq_ok.1 all
  obtain rfl : sent = first := Except.ok.inj (h.sent.symm.trans hf)
  obtain ⟨n, batch, looked, le, hn, stop⟩ := follow_eq (max size 1) [] hrest
  rw [List.nil_append] at looked stop
  have moved : (s.nextBatch cursor size) = (answerOf cursor batch, { s with
      cursors := s.cursors.insert cursor (.tailing collection pipeline (position + n)) }) := by
    unfold nextBatch
    dsimp only
    rw [h.state]
    dsimp only
    rw [looked]
    cases batch <;> rfl
  rw [moved]
  refine ⟨position + n, batch, rfl, ⟨Dictionary.get?_insert_self .., h.known,
    Nat.le_add_right_of_le h.started, ?_, ?_⟩, fun none => ?_⟩
  · rw [List.length_drop] at le
    have := h.inLog
    show position + n ≤ s.events.length
    omega
  · show passed collection pipeline ((s.events.take (position + n)).drop start) = _
    rw [List.take_add, List.drop_append_of_le_length reached]
    exact passed_append_eq_ok.2 ⟨sent, batch, h.sent, hn, rfl⟩
  · -- A read that gathers nothing has looked at all events.
    subst none
    have all : n = (s.events.drop position).length := by
      rcases stop with all | enough
      · exact all
      · rw [List.length_nil] at enough
        omega
    rw [all, List.take_length, hrest] at hn
    obtain rfl : rest = [] := Except.ok.inj hn
    exact (List.append_nil sent).symm

end

/-! ## Runs -/

/-- The documents that a reader of a cursor gets out of something that happens. -/
def brought (cursor : Nat) (s : Store) : Activity → List Json
  | .nextBatch other size =>
    if other = cursor then
      match (s.nextBatch cursor size).1 with
      | .ok (some batch) => batch.documents
      | _ => []
    else []
  | _ => []

/-- All documents that the readers of a cursor get in a run, one batch after the other. -/
def delivered (cursor : Nat) : Store → List Activity → List Json
  | _, [] => []
  | s, a :: rest => brought cursor s a ++ delivered cursor (s.after a) rest

section

variable {collection : String} {pipeline : List Json} {start cursor position : Nat}
  {sent docs : List Json} {s : Store}

/-- **Whatever happens, a cursor that is not closed follows the log.** -/
theorem Follows.after (h : Follows collection pipeline start cursor position sent s) {a : Activity}
    (kept : a ≠ .killCursor cursor)
    (all : passed collection pipeline (s.events.drop start) = .ok docs) :
    ∃ position, Follows collection pipeline start cursor position (sent ++ brought cursor s a)
      (s.after a) := by
  by_cases used : a.Uses cursor
  · cases a with
    | nextBatch other size =>
      obtain rfl : other = cursor := used
      obtain ⟨position, batch, answer, follows, -⟩ := h.read size all
      refine ⟨position, ?_⟩
      have brings : brought other s (.nextBatch other size) = batch := by
        rw [brought, if_pos rfl, answer, answerOf]
        cases batch <;> rfl
      rw [brings]
      exact follows
    | killCursor other => exact absurd (congrArg Activity.killCursor used) kept
    | _ => exact used.elim
  · obtain ⟨same, known⟩ := cursor_after h.known used
    have nothing : brought cursor s a = [] := by
      cases a with
      | nextBatch other size => exact if_neg used
      | _ => rfl
    refine ⟨position, ?_⟩
    rw [nothing, List.append_nil]
    exact h.keep same known (s.events_after a)

/-- A run keeps a cursor following the log, and what it has delivered is what its readers got. -/
theorem Follows.afterAll {activities : List Activity}
    (h : Follows collection pipeline start cursor position sent s)
    (kept : .killCursor cursor ∉ activities)
    (all : passed collection pipeline ((s.afterAll activities).events.drop start) = .ok docs) :
    ∃ position, Follows collection pipeline start cursor position
      (sent ++ delivered cursor s activities) (s.afterAll activities) := by
  induction activities generalizing s position sent with
  | nil =>
    refine ⟨position, ?_⟩
    rw [delivered, List.append_nil]
    exact h
  | cons a rest ih =>
    obtain ⟨here, later⟩ := not_or.1 (mt List.mem_cons.2 kept)
    have grown : s.events <+: (s.afterAll (a :: rest)).events := s.events_afterAll _
    have grown : s.events.drop start <+: (s.afterAll (a :: rest)).events.drop start := by
      obtain ⟨more, same⟩ := s.events_afterAll (a :: rest)
      rw [← same, List.drop_append_of_le_length (Nat.le_trans h.started h.inLog)]
      exact List.prefix_append _ _
    obtain ⟨_, soFar, -⟩ := passed_of_prefix grown all
    obtain ⟨_, follows⟩ := h.after (Ne.symm here) soFar
    obtain ⟨position, follows⟩ := ih follows later all
    refine ⟨position, ?_⟩
    rw [delivered, ← List.append_assoc]
    exact follows

/-- A cursor on changes starts at the end of the log. -/
theorem state_of_watch {state : CursorState}
    (captured : s.cursorState (.watch collection pipeline) = .ok state) :
    state = .tailing collection pipeline s.events.length := by
  obtain ⟨_, -, same⟩ := bind_eq_ok.1 captured
  exact (Except.ok.inj same).symm

/-- Opening a cursor on changes registers it; there is nothing to read yet. -/
theorem openCursor_watch {state : CursorState} (quiet : s.faults = [])
    (captured : s.cursorState (.watch collection pipeline) = .ok state) (size : Nat) :
    s.openCursor (.watch collection pipeline) size =
      (.ok ⟨s.nextCursor, []⟩, register { s with commands := s.commands + 1 } state) := by
  have arrived : s.arrive = (none, { s with commands := s.commands + 1 }) := by
    simp [arrive, quiet]
  have same : Store.cursorState { s with commands := s.commands + 1 } (.watch collection pipeline) =
      .ok state := captured
  rw [openCursor_eq, arrived]
  dsimp only
  rw [same]
  obtain rfl := state_of_watch captured
  dsimp only
  have found : (register { s with commands := s.commands + 1 }
      (.tailing collection pipeline s.events.length)).cursors.get? s.nextCursor =
        some (.tailing collection pipeline s.events.length) := Dictionary.get?_insert_self ..
  unfold nextBatch
  rw [found]
  simp [register, follow, Dictionary.insert_insert, Except.map]

/-- **A change stream delivers every event once and in order.** The place in the log is captured
first, and the cursor is entered later. From then on, whatever happens to the store, as long as the
cursor is not closed and its pipeline fails on no event: what the readers of the cursor got is the
beginning of what passes of the events that were logged since the place was captured. A read brings
what comes next, or else nothing is left of it. If nobody comes between, this is what opening the
cursor does. -/
theorem stream_delivered {state : CursorState}
    (captured : s.cursorState (.watch collection pipeline) = .ok state)
    (meanwhile later : List Activity)
    (kept : .killCursor (s.afterAll meanwhile).nextCursor ∉ later)
    (all : passed collection pipeline ((((s.afterAll meanwhile).register state).afterAll
      later).events.drop s.events.length) = .ok docs) :
    let cursor := (s.afterAll meanwhile).nextCursor
    let opened := (s.afterAll meanwhile).register state
    delivered cursor opened later <+: docs ∧
      (∀ size,
        (((opened.afterAll later).nextBatch cursor size).1 = .ok none ∧
            delivered cursor opened later = docs) ∨
          ∃ batch, ((opened.afterAll later).nextBatch cursor size).1 = .ok (some ⟨cursor, batch⟩) ∧
            batch ≠ [] ∧ delivered cursor opened later ++ batch <+: docs) ∧
      (s.faults = [] → ∀ size, s.openCursor (.watch collection pipeline) size =
        (.ok ⟨s.nextCursor, []⟩, register { s with commands := s.commands + 1 } state)) := by
  intro cursor opened
  have entered : Follows collection pipeline s.events.length cursor s.events.length [] opened := by
    obtain rfl := state_of_watch captured
    have grown := (s.events_afterAll meanwhile).length_le
    refine ⟨Dictionary.get?_insert_self .., Nat.lt_succ_self _, Nat.le_refl _, grown, ?_⟩
    rw [List.drop_eq_nil_of_le (List.length_take_le _ _)]
    exact passed_nil
  obtain ⟨position, follows⟩ := entered.afterAll kept all
  rw [List.nil_append] at follows
  refine ⟨follows.sent_prefix all, fun size => ?_, fun quiet => openCursor_watch quiet captured⟩
  obtain ⟨_, batch, answer, next, nothing⟩ := follows.read size all
  rw [answer]
  cases batch with
  | nil => exact .inl ⟨rfl, nothing rfl⟩
  | cons doc batch =>
    refine .inr ⟨doc :: batch, rfl, List.cons_ne_nil _ _, next.sent_prefix ?_⟩
    obtain ⟨_, same⟩ := (opened.afterAll later).nextBatch_frame cursor size
    rw [same]
    exact all

end

/-- A stream of insertions, beside writes to another collection and a fault: the first of two
events has been read. -/
theorem stream_delivered_insertions :
    let pipeline : List Json := [.obj [("$match", .obj [("operationType", .str "insert")])]]
    let later : List Activity :=
      [.execute (.insert "c" [.obj [("_id", .int 1)], .obj [("_id", .int 2)]] true),
        .nextBatch 1 1,
        .adjust (.failNext .poolExhausted),
        .execute (.delete "c" (.obj []) true),
        .execute (.insert "d" [.obj [("_id", .int 3)]] true),
        .execute (.delete "c" (.obj []) true)]
    let opened := register {} (.tailing "c" pipeline 0)
    ∃ docs, passed "c" pipeline (opened.afterAll later).events = .ok docs ∧ docs.length = 2 ∧
      (delivered 1 opened later).length = 1 ∧ delivered 1 opened later <+: docs := by
  intro pipeline later opened
  have captured : Store.cursorState {} (.watch "c" pipeline) = .ok (.tailing "c" pipeline 0) := rfl
  have shape : (passed "c" pipeline (opened.afterAll later).events).toOption.map List.length =
      some 2 := by decide +kernel
  obtain ⟨docs, found, two⟩ := Option.map_eq_some_iff.1 shape
  have all : passed "c" pipeline (opened.afterAll later).events = .ok docs := by
    revert found
    cases passed "c" pipeline (opened.afterAll later).events with
    | error fault => exact fun found => nomatch found
    | ok docs' => exact fun found => congrArg Except.ok (Option.some.inj found)
  exact ⟨docs, all, two, by decide +kernel, (stream_delivered captured [] later (by simp [later]) all).1⟩

end DocStore.Store
