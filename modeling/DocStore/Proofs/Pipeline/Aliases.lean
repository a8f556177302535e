import DocStore.Proofs.Pipeline.Origins
import DocStore.Proofs.Pipeline.Scope

/-!
# Aliases in scope

The builder lets a field be unwound by its alias while the alias is in scope. Every document of such
a pipeline has the alias as a top-level field, unless a projection took it
(`Pipeline.Built.isSome_get?_of_unwind`): a projection that keeps only paths below the alias writes
nothing for a document without values at these paths (`Aggregation.Drops`), and the alias stays in
scope.
-/

namespace DocStore

open Fallible (bind_eq_ok)
open Aggregation (run runStage includes excludes keeps? projectDocument Spares Carries)

/-- An including projection drops a top-level field of a document: it keeps only paths at or below
the field, and the document has nothing at any of them. -/
structure Aggregation.Drops (fields : Fields) (name : String) (e : Json) : Prop where
  had : (e.get? name).isSome
  including : includes fields = true
  named : ∃ f ∈ fields, Path.root f.1 = name
  absent : ∀ f ∈ fields, Path.root f.1 = name → keeps? f.2 = some true ∧ e.getPath? f.1 = none

/-- A stage gives every document a top-level field: a lookup under this name, or a projection that
computes the field or something below it. -/
def Stage.Brings (name : String) : Stage → Prop
  | .lookup _ _ _ target => target = name
  | .project fields => includes fields = true ∧
    ∃ f ∈ fields, Path.root f.1 = name ∧ keeps? f.2 = none
  | _ => False

/-- A stage never drops a top-level field: an including projection that names something at or below
the field names the field itself, or computes something. -/
def Stage.Keeps (name : String) : Stage → Prop
  | .project fields => includes fields = true → (∃ f ∈ fields, Path.root f.1 = name) →
    ∃ f ∈ fields, Path.root f.1 = name ∧ (f.1 = name ∨ keeps? f.2 = none)
  | _ => True

namespace Pipeline

/-- A document was made out of another one by some stages, one after the other. -/
inductive Descends (collections : String → List Json) : List Stage → Json → Json → Prop where
  | nil {d : Json} : Descends collections [] d d
  | snoc {stages : List Stage} {s : Stage} {d e e' : Json} : Descends collections stages d e →
    s.Makes collections e e' → Descends collections (stages ++ [s]) d e'

/-- A document of a run is left of one that had a top-level field until a projection dropped it, and
no later stage has brought it back. -/
inductive Lost (collections : String → List Json) (stages : List Stage) (docs : List Json)
    (name : String) (d : Json) : Prop where
  | intro {before after : List Stage} {fields : Fields} {reached : List Json} {e e' : Json} :
    stages = before ++ .project fields :: after →
    run collections (before.map Stage.toJson) docs = .ok reached → e ∈ reached →
    Aggregation.Drops fields name e → projectDocument fields e = .ok e' →
    Descends collections after e' d → (∀ s ∈ after, ¬ s.Brings name) →
    Lost collections stages docs name d

section

variable {Admitted : Filter → Prop} {collections : String → List Json} {docs out : List Json}
  {name : String} {s : Stage} {scope scope' : List String} {d e : Json}

/-! ## One document -/

/-- A path that reads something in an object begins with one of its fields. -/
theorem isSome_get?_root {path : String} (object : d.isObject = true)
    (there : (d.getPath? path).isSome) : (d.get? (Path.root path)).isSome := by
  obtain ⟨fs, rfl⟩ := Json.exists_fields object
  obtain ⟨root, rest, split⟩ := Path.exists_cons path
  obtain ⟨w, there⟩ := Option.isSome_iff_exists.1 there
  rw [Json.getPath?, split] at there
  obtain ⟨below, here, -⟩ := Option.bind_eq_some_iff.1 there
  rw [Path.root, split]
  exact Option.isSome_iff_exists.2 ⟨below, here⟩

theorem isSome_get?_of_brings (made : s.Makes collections e d) (brings : s.Brings name)
    (proper : IsOutputName name) : (d.get? name).isSome := by
  cases made with
  | lookup written =>
    obtain rfl := brings
    exact (Aggregation.isSome_get?_write written _).2 (.inr proper.root)
  | project projected =>
    obtain ⟨including, f, member, below, computed⟩ := brings
    rw [Aggregation.isSome_get?_of_included including projected proper.ne_id]
    exact ⟨f, member, below, Aggregation.isSome_written?_iff.2 (.inl computed)⟩
  | _ => cases brings

/-- A field that is not carried over is only kept, by paths at which the document has nothing. -/
theorem not_carries {fields : Fields} (unmixed : (excludes fields && includes fields) = false)
    (including : includes fields = true) (proper : IsOutputName name)
    (lost : ¬ Carries fields e name) : ∀ f ∈ fields, Path.root f.1 = name →
      keeps? f.2 = some true ∧ e.getPath? f.1 = none := by
  rintro ⟨field, v⟩ member below
  have identifier : Path.root "_id" = "_id" := by decide
  have notId : field ≠ "_id" := by
    rintro rfl
    exact proper.ne_id (below.symm.trans identifier)
  have notDropped : keeps? v ≠ some false := by
    intro dropped
    rw [including, Bool.and_true, excludes, List.any_eq_false] at unmixed
    exact unmixed _ member (by simp [notId, dropped])
  have nothing : ¬ (Aggregation.written? e field v).isSome := fun written =>
    lost ⟨_, member, below, written⟩
  rw [Aggregation.isSome_written?_iff] at nothing
  cases kept : keeps? v with
  | none => exact absurd (.inl kept) nothing
  | some keeps =>
    cases keeps with
    | false => exact absurd kept notDropped
    | true => exact ⟨rfl, by simpa [kept, notId] using nothing⟩

/-- Only a stage that brings a field makes a document with it of one without it. -/
theorem isSome_get?_of_makes (entered : s.Enters Admitted scope scope')
    (made : s.Makes collections e d) (object : e.isObject = true) (idle : ¬ s.Brings name)
    (proper : IsOutputName name) (present : (d.get? name).isSome) : (e.get? name).isSome := by
  cases made with
  | lookup written =>
    cases entered with
    | lookup named =>
      rw [Aggregation.isSome_get?_write written, named.root] at present
      exact present.resolve_right idle
  | unwind unwound item =>
    rcases Stage.unwound_cases unwound item with rfl | ⟨there, value, written⟩
    · exact present
    · rw [Aggregation.isSome_get?_write written] at present
      exact present.elim id fun below => below ▸ isSome_get?_root object there
  | @project fields _ _ projected =>
    cases including : includes fields with
    | true =>
      rw [Aggregation.isSome_get?_of_included including projected proper.ne_id] at present
      obtain ⟨f, member, below, written⟩ := present
      rcases Aggregation.isSome_written?_iff.1 written with computed | ⟨-, -, there⟩
      · exact absurd ⟨including, f, member, below, computed⟩ idle
      · exact below ▸ isSome_get?_root object there
    | false =>
      cases (Aggregation.projectDocument_of_excludes including).symm.trans projected
      by_contra absent
      exact Aggregation.exclude_invariant (P := fun d => ¬ (d.get? name).isSome) absent
        (fun _ _ _ _ before after => before (Aggregation.isSome_get?_of_removePath after)) present
  | _ => exact present

/-- A field in scope after a stage stays in a document, unless the stage is a projection that drops
it. -/
theorem isSome_get?_or_drops (entered : s.Enters Admitted scope scope')
    (made : s.Makes collections e d) (proper : IsOutputName name) (present : (e.get? name).isSome)
    (member : name ∈ scope') :
    (d.get? name).isSome ∨ ∃ fields, s = .project fields ∧ Aggregation.Drops fields name e := by
  cases made with
  | lookup written =>
    exact .inl ((Aggregation.isSome_get?_write written _).2 (.inl present))
  | unwind unwound item =>
    rcases Stage.unwound_cases unwound item with rfl | ⟨-, value, written⟩
    · exact .inl present
    · exact .inl ((Aggregation.isSome_get?_write written _).2 (.inl present))
  | @project fields _ _ projected =>
    cases entered with
    | project unmixed spared =>
      have spares := (spared name member).2 proper
      cases including : includes fields with
      | true =>
        rw [Spares, if_pos including] at spares
        rw [Aggregation.isSome_get?_of_included including projected proper.ne_id]
        by_cases carried : Carries fields e name
        · exact .inl carried
        · obtain ⟨f, hf, below, -⟩ := spares
          have absent := not_carries unmixed including proper carried
          exact .inr ⟨fields, rfl, present, including, ⟨f, hf, below⟩, absent⟩
      | false =>
        rw [Spares, if_neg (by simp [including])] at spares
        cases (Aggregation.projectDocument_of_excludes including).symm.trans projected
        exact .inl (Aggregation.isSome_get?_exclude spares present)
  | _ => exact .inl present

/-- What a projection drops is gone. -/
theorem Drops.not_isSome {fields : Fields} (drops : Aggregation.Drops fields name e)
    (projected : projectDocument fields e = .ok d) (proper : IsOutputName name) :
    ¬ (d.get? name).isSome := by
  rw [Aggregation.isSome_get?_of_included drops.including projected proper.ne_id]
  rintro ⟨f, member, below, written⟩
  obtain ⟨kept, nothing⟩ := drops.absent f member below
  simp [Aggregation.isSome_written?_iff, kept, nothing] at written

/-! ## Runs -/

theorem not_isSome_of_descends {stages : List Stage}
    (checked : ∀ s ∈ stages, ∃ before after, s.Enters Admitted before after)
    (proper : IsOutputName name) (descends : Descends collections stages e d)
    (idle : ∀ s ∈ stages, ¬ s.Brings name) (object : e.isObject = true)
    (absent : ¬ (e.get? name).isSome) : d.isObject = true ∧ ¬ (d.get? name).isSome := by
  induction descends with
  | nil => exact ⟨object, absent⟩
  | snoc _ made ih =>
    obtain ⟨checked, last⟩ := List.forall_mem_append.1 checked
    obtain ⟨idle, idleLast⟩ := List.forall_mem_append.1 idle
    obtain ⟨before, after, entered⟩ := last _ (List.mem_singleton_self _)
    obtain ⟨object, absent⟩ := ih checked idle object absent
    have idleHere := idleLast _ (List.mem_singleton_self _)
    exact ⟨made.isObject object, fun present =>
      absent (isSome_get?_of_makes entered made object idleHere proper present)⟩

/-- A document that has lost a field is without it. -/
theorem Lost.not_isSome {stages : List Stage} (lost : Lost collections stages docs name d)
    (checked : ∀ s ∈ stages, ∃ before after, s.Enters Admitted before after)
    (proper : IsOutputName name) : ¬ (d.get? name).isSome := by
  obtain ⟨rfl, ran, member, drops, projected, descends, idle⟩ := lost
  have later := fun s hs => checked s (List.mem_append_right _ (List.mem_cons_of_mem _ hs))
  exact (not_isSome_of_descends later proper descends idle
    (Aggregation.isObject_of_included drops.including projected)
    (Drops.not_isSome drops projected proper)).2

/-- A lost field stays lost until a stage brings it. -/
theorem Lost.snoc {stages : List Stage} (lost : Lost collections stages docs name e)
    (made : s.Makes collections e d) (idle : ¬ s.Brings name) :
    Lost collections (stages ++ [s]) docs name d := by
  obtain ⟨rfl, ran, member, drops, projected, descends, later⟩ := lost
  exact .intro (by simp) ran member drops projected (descends.snoc made)
    (List.forall_mem_append.2 ⟨later, by simpa using idle⟩)

/-- A field comes into scope by a group or by a lookup only. -/
theorem enters_cases (entered : s.Enters Admitted scope scope') (member : name ∈ scope') :
    name ∈ scope ∨ s.Brings name ∨ ∃ key accumulators, s = .group key accumulators := by
  cases entered with
  | group => exact .inr (.inr ⟨_, _, rfl⟩)
  | lookup => exact (List.mem_cons.1 member).elim (fun same => .inr (.inl same.symm)) .inl
  | project _ spared => exact .inl (spared name member).1
  | _ => exact .inl member

theorem run_toJson_snoc (stages : List Stage) (s : Stage) :
    run collections ((stages ++ [s]).map Stage.toJson) docs =
      run collections (stages.map Stage.toJson) docs >>= fun mid =>
        runStage collections mid s.toJson := by
  rw [List.map_append, Aggregation.run_append]
  exact congrArg _ (funext fun mid => Aggregation.run_singleton _)

/-- After some stages every document has the aliases in scope, apart from those it lost. -/
theorem Scoped.isSome_get?_or_lost {stages : List Stage} (h : Scoped Admitted stages scope)
    (member : name ∈ scope) (ran : run collections (stages.map Stage.toJson) docs = .ok out) :
    ∀ d ∈ out, (d.get? name).isSome ∨ Lost collections stages docs name d := by
  have proper := h.isOutputName name member
  induction h generalizing out with
  | nil => cases member
  | @snoc stages scope scope' s earlier entered ih =>
    rw [run_toJson_snoc] at ran
    obtain ⟨mid, soFar, last⟩ := bind_eq_ok.1 ran
    intro d hd
    obtain ⟨e, he, made⟩ | ⟨_, _, spec, g, rfl, read, rfl⟩ := Stage.exists_origin last hd
    · by_cases brings : s.Brings name
      · exact .inl (isSome_get?_of_brings made brings proper)
      have before : name ∈ scope := by
        rcases enters_cases entered member with before | brings' | ⟨_, _, rfl⟩
        · exact before
        · exact absurd brings' brings
        · cases made
      rcases ih before soFar e he with present | lost
      · obtain here | ⟨fields, rfl, drops⟩ := isSome_get?_or_drops entered made proper present member
        · exact .inl here
        · cases made with
          | project projected => exact .inr (.intro rfl soFar he drops projected .nil (by simp))
      · exact .inr (lost.snoc made brings)
    · cases entered with
      | group => exact .inl (Stage.isSome_get?_of_group read g proper.ne_id member)

/-- A field that is lost was dropped by a projection that does not keep it. -/
theorem Lost.exists_not_keeps {stages : List Stage} (lost : Lost collections stages docs name d)
    (proper : IsOutputName name) : ∃ s ∈ stages, ¬ s.Keeps name := by
  obtain @⟨_, _, fields, _, e, _, rfl, -, -, drops, -, -, -⟩ := lost
  refine ⟨_, List.mem_append_right _ List.mem_cons_self, fun keeps => ?_⟩
  obtain ⟨f, member, below, same | computed⟩ := keeps drops.including drops.named
  · obtain ⟨-, nothing⟩ := drops.absent f member below
    have had := drops.had
    rw [same, Json.getPath?_of_not_mem proper.plain] at nothing
    cases e with
    | obj fs => exact absurd nothing (Option.isSome_iff_ne_none.1 had)
    | _ => cases had
  · obtain ⟨kept, -⟩ := drops.absent f member below
    rw [computed] at kept
    cases kept

end

/-- **A field that the builder lets unwind is in every document**, apart from those that lost it to
a projection. Where each including projection that names something at or below the field names the
field itself or computes something, no document loses it. -/
theorem Built.isSome_get?_of_unwind {Admitted : Filter → Prop} {collections : String → List Json}
    {docs out : List Json} {p p' : Pipeline} {name : String} (built : Built Admitted p)
    (accepted : p.unwind name = .ok p') (ran : run collections p.toJson docs = .ok out) :
    ∃ path, unwindPathOf name = .ok path ∧ Path.root path ∈ p.aliases ∧
      (∀ d ∈ out, (d.get? (Path.root path)).isSome ↔
        ¬ Lost collections p.stages docs (Path.root path) d) ∧
      ((∀ s ∈ p.stages, s.Keeps (Path.root path)) → ∀ d ∈ out, (d.get? (Path.root path)).isSome) := by
  obtain ⟨path, read, declared, -⟩ := unwind_cases accepted
  have stages := built.scoped
  have proper := stages.isOutputName _ declared
  have outcome := stages.isSome_get?_or_lost declared ran
  refine ⟨path, read, declared, fun d hd => ⟨fun present lost => ?_, fun kept => ?_⟩,
    fun keeps d hd => (outcome d hd).resolve_right fun lost => ?_⟩
  · exact lost.not_isSome stages.exists_enters proper present
  · exact (outcome d hd).resolve_right kept
  · obtain ⟨s, hs, drops⟩ := lost.exists_not_keeps proper
    exact drops (keeps s hs)

/-- A buyer who was unwound stays with the order where a projection keeps the buyer. -/
theorem isSome_get?_of_unwind_kept :
    ∃ p p' : Pipeline, p.unwind "buyer" = .ok p' ∧
      p.stages = [.lookup "customers" "customer" "_id" "buyer", .unwind "buyer",
        .project [("buyer", .bool true)]] ∧
      ∃ d, run (fun _ => [.obj [("_id", .str "c")]]) p.toJson [.obj [("customer", .str "c")]] =
        .ok [d] ∧ (d.get? "buyer").isSome := by
  let joined : Pipeline :=
    { stages := [.lookup "customers" "customer" "_id" "buyer"], aliases := ["buyer"] }
  let unwound : Pipeline := joined.push (.unwind "buyer")
  let kept : Pipeline := unwound.push (.project [("buyer", .bool true)])
  have lookup : ({} : Pipeline).lookup "customers" "customer" "_id" "buyer" = .ok joined := rfl
  have unwind : joined.unwind "buyer" = .ok unwound := rfl
  have project : unwound.project (.obj [("buyer", .bool true)]) = .ok kept := rfl
  have accepted : kept.unwind "buyer" = .ok (kept.push (.unwind "buyer")) := rfl
  have ran : run (fun _ => [.obj [("_id", .str "c")]]) kept.toJson [.obj [("customer", .str "c")]] =
      .ok [.obj [("buyer", .obj [("_id", .str "c")])]] := rfl
  have built : Built (fun _ => True) kept :=
    .project (.unwind (.lookup .empty lookup) unwind) project
  obtain ⟨path, read, -, -, present⟩ := built.isSome_get?_of_unwind accepted ran
  obtain rfl : "buyer" = path := Except.ok.inj read
  have root : Path.root "buyer" = "buyer" := by decide
  rw [root] at present
  refine ⟨kept, _, accepted, rfl, _, ran, present ?_ _ (List.mem_singleton_self _)⟩
  simp only [kept, unwound, joined, push, List.forall_mem_append, List.forall_mem_singleton]
  exact ⟨⟨trivial, trivial⟩, fun _ _ => ⟨_, List.mem_singleton_self _, root, .inl rfl⟩⟩

/-- The buyers that are joined to an order are an array, which has no name: a projection that keeps
only the name of the buyer takes the buyer away, and the builder still accepts to unwind it. -/
theorem not_isSome_of_path_below :
    ∃ p p' : Pipeline, Built (fun _ => True) p ∧ p.unwind "buyer" = .ok p' ∧
      ∃ d, run (fun _ => [.obj [("_id", .str "c"), ("name", .str "n")]]) p.toJson
        [.obj [("_id", .str "o"), ("customer", .str "c")]] = .ok [d] ∧ d.get? "buyer" = none := by
  let joined : Pipeline :=
    { stages := [.lookup "customers" "customer" "_id" "buyer"], aliases := ["buyer"] }
  let named : Pipeline := joined.push (.project [("buyer.name", .bool true)])
  have lookup : ({} : Pipeline).lookup "customers" "customer" "_id" "buyer" = .ok joined := rfl
  have project : joined.project (.obj [("buyer.name", .bool true)]) = .ok named := rfl
  have unwind : named.unwind "buyer" = .ok (named.push (.unwind "buyer")) := rfl
  have ran : run (fun _ => [.obj [("_id", .str "c"), ("name", .str "n")]]) named.toJson
      [.obj [("_id", .str "o"), ("customer", .str "c")]] = .ok [.obj [("_id", .str "o")]] := rfl
  exact ⟨named, _, .project (.lookup .empty lookup) project, unwind, _, ran, rfl⟩

end Pipeline

end DocStore
