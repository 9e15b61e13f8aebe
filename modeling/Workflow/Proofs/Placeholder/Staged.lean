import Workflow.Engine.Lifecycle
import Workflow.Proofs.Handler.Barrier
import Workflow.Proofs.Placeholder.Split

/-!
# Filling in two stages

The placeholders in the configuration of a step are filled twice: from the configuration of a
routine when the routine is made, and from the variables of a run when the step is carried out. As
long as every brace of a text belongs to a placeholder and the first stage puts in no braces, the
second stage reads just the placeholders that were left. So the two stages come to one, in which the
configuration counts first and the variables second.
-/

namespace Workflow

namespace Placeholder

variable {context first second : Value} {ps : List Piece} {text : String}

/-- The piece has no brace apart from those that mark a placeholder. -/
def Piece.Neat : Piece → Prop
  | .plain c => isBrace c = false
  | .hole inner => Braceless inner

instance (piece : Piece) : Decidable piece.Neat :=
  match piece with
  | .plain c => inferInstanceAs (Decidable (isBrace c = false))
  | .hole inner => inferInstanceAs (Decidable (Braceless inner))

/-- Every brace of the text belongs to a placeholder. -/
def Neat (text : String) : Prop := ∀ c, .plain c ∈ pieces text.toList → isBrace c = false

/-- What the placeholders of the text find is written without braces. -/
def FillsPlainly (context : Value) (text : String) : Prop :=
  ∀ inner, .hole inner ∈ pieces text.toList →
    ∀ v, found? context inner = some v → Braceless v.display.toList

/-- What a placeholder is replaced by in two stages: by what the first context has for it, and
otherwise by what the second one has. -/
def staged (first second : Value) (inner : List Char) : List Char :=
  match found? first inner with
  | some v => v.display.toList
  | none => replacement second inner

/-- What becomes of a piece in the first stage, in pieces again. -/
def Piece.settle (context : Value) : Piece → List Piece
  | .plain c => [.plain c]
  | .hole inner =>
    match found? context inner with
    | some v => v.display.toList.map .plain
    | none => [.hole inner]

/-- Neat pieces are found again in what they were read from. -/
theorem pieces_flatMap_source (h : ∀ piece ∈ ps, piece.Neat) :
    pieces (ps.flatMap Piece.source) = ps := by
  induction ps with
  | nil => exact pieces_nil
  | cons piece rest ih =>
      obtain ⟨hpiece, hrest⟩ := List.forall_mem_cons.mp h
      rw [List.flatMap_cons]
      cases piece with
      | plain c =>
          have hnone : hole? (c :: rest.flatMap Piece.source) = none := by
            refine hole?_eq_none_iff.mpr ?_
            rintro inner - ⟨after, hafter⟩
            obtain ⟨rfl, -⟩ := List.cons.inj hafter
            exact absurd (show isBrace '\x7b' = false from hpiece) (by decide)
          exact (pieces_cons hnone).trans (congrArg (Piece.plain c :: ·) (ih hrest))
      | hole inner => rw [pieces_hole hpiece, ih hrest]

theorem neat_iff : Neat text ↔ ∀ piece ∈ pieces text.toList, piece.Neat := by
  constructor
  · intro h piece hpiece
    cases piece with
    | plain c => exact h c hpiece
    | hole inner =>
        obtain ⟨part, hpart, rfl⟩ := List.mem_map.mp (Split.mem_holes_ofPieces.mpr hpiece)
        exact (Split.of_ofPieces text.toList).inside part hpart
  · exact fun h c hc => h (.plain c) hc

theorem write_replacement (piece : Piece) :
    piece.write (replacement context) = (piece.settle context).flatMap Piece.source := by
  cases piece with
  | plain c => rfl
  | hole inner =>
      rw [Piece.write, replacement, Piece.settle]
      cases found? context inner with
      | some v => simp [List.flatMap_map, Piece.source]
      | none => simp

theorem write_staged (piece : Piece) :
    (piece.settle first).flatMap (Piece.write (replacement second)) =
      piece.write (staged first second) := by
  cases piece with
  | plain c => rfl
  | hole inner =>
      rw [Piece.write, staged, Piece.settle]
      cases found? first inner with
      | some v => simp [List.flatMap_map, Piece.write]
      | none => simp [Piece.write]

/-- The first stage leaves what it put in, without braces, and the placeholders that found nothing.
-/
theorem pieces_filled (hneat : Neat text) (hplain : FillsPlainly context text) :
    pieces (filled context text).toList = (pieces text.toList).flatMap (Piece.settle context) := by
  have hsource : (filled context text).toList =
      ((pieces text.toList).flatMap (Piece.settle context)).flatMap Piece.source := by
    rw [filled, String.toList_ofList, List.flatMap_assoc]
    exact congrArg (List.flatMap · _) (funext write_replacement)
  rw [hsource]
  refine pieces_flatMap_source fun settled hsettled => ?_
  obtain ⟨piece, hpiece, hin⟩ := List.mem_flatMap.mp hsettled
  have hneatPiece := neat_iff.mp hneat piece hpiece
  cases piece with
  | plain c =>
      obtain rfl := List.mem_singleton.mp hin
      exact hneatPiece
  | hole inner =>
      rw [Piece.settle] at hin
      split at hin
      · rename_i v hfound
        obtain ⟨c, hc, rfl⟩ := List.mem_map.mp hin
        exact hplain inner hpiece v hfound c hc
      · obtain rfl := List.mem_singleton.mp hin
        exact hneatPiece

/-- Two stages come to one. -/
theorem filled_filled (hneat : Neat text) (hplain : FillsPlainly first text) :
    filled second (filled first text) =
      String.ofList ((pieces text.toList).flatMap (Piece.write (staged first second))) := by
  rw [filled, pieces_filled hneat hplain, List.flatMap_assoc]
  exact congrArg (fun write => String.ofList (List.flatMap write _)) (funext write_staged)

/-- Placeholders that are left over can be filled if all could be. -/
theorem fillable_filled (hneat : Neat text) (hplain : FillsPlainly first text)
    (h : Fillable second text) : Fillable second (filled first text) := by
  intro inner hinner
  rw [pieces_filled hneat hplain] at hinner
  obtain ⟨piece, hpiece, hin⟩ := List.mem_flatMap.mp hinner
  cases piece with
  | plain c => simp [Piece.settle] at hin
  | hole other =>
      rw [Piece.settle] at hin
      split at hin
      · simp at hin
      · obtain ⟨⟩ := List.mem_singleton.mp hin
        exact h inner hpiece

/-- The text with each placeholder replaced in two stages. -/
def stagedText (first second : Value) (text : String) : String :=
  String.ofList ((pieces text.toList).flatMap (Piece.write (staged first second)))

end Placeholder

theorem Value.mapFields_eq_map (f : String → String) (fields : Fields) :
    Value.mapFields f fields = fields.map fun field => (field.1, field.2.mapTexts f) := by
  induction fields with
  | nil => rfl
  | cons field rest ih =>
      obtain ⟨name, v⟩ := field
      rw [Value.mapFields, ih, List.map_cons]

namespace Engine

variable {X : Type} {engine engine' : Engine X}

/-- A routine gets the definition of its template with the texts at the top of the configurations
filled. -/
theorem definition_of_instantiate {template : Template} {scope name createdBy : String}
    {configuration : Fields} {routine : Routine}
    (h : (instantiate template scope configuration name createdBy).perform engine =
      (.ok routine, engine')) :
    routine.definition =
      template.definition.mapConfigTexts (filled (hydration configuration)) := by
  obtain ⟨definition, _, hhydrate, h⟩ := Operation.exists_of_perform_bind h
  obtain ⟨-, hdefinition⟩ := (hydrate_hinges template.definition configuration).ok_iff.mp
    (Operation.eq_of_perform_ofExcept hhydrate).1
  rw [← hdefinition]
  obtain ⟨_, _, _, h⟩ := Operation.exists_of_perform_bind h
  obtain ⟨_, _, _, h⟩ := Operation.exists_of_perform_bind h
  obtain ⟨_, _, _, h⟩ := Operation.exists_of_perform_bind h
  obtain ⟨_, _, _, h⟩ := Operation.exists_of_perform_bind h
  obtain ⟨_, _, _, h⟩ := Operation.exists_of_perform_bind h
  cases h
  rfl

/-- A step comes down to its handler with the texts in the configuration filled, if there is such a
handler and the texts can be filled. -/
theorem ends_answer_iff {perform : X → Context → Fields → Activity (Engine X) Returned}
    {rely : Engine X → Engine X → Prop} {intent : Intent} {handler : Handler X}
    {outcome : Except Fault Output}
    (hhandler : engine.registry.find intent.step.handlerKey = .ok handler)
    (hfillable : ∀ text ∈ Value.textsOfFields intent.step.config,
      Fillable (.object intent.context.bindings) text) :
    Activity.Ends rely ((surroundings perform).answer intent) engine outcome engine' ↔
      Activity.Ends rely
        ((surroundings perform).run handler intent.context
          (Value.mapFields (filled (.object intent.context.bindings)) intent.step.config))
        engine outcome engine' := by
  refine Surroundings.ends_answer_of_ok (Intent.prepared_eq_ok_iff.mpr ⟨?_, ?_⟩)
  · exact Registry.find_eq_ok_iff.mp hhandler
  · exact (interpolateFields_hinges (.object intent.context.bindings) intent.step.config).ok
      hfillable

end Engine

open Placeholder
open Engine (instantiate surroundings)

/-- The placeholders of a text are filled from the configuration first and from the variables
second, with nothing lost in between. This holds of the text by itself, and of a text at the top of
the configuration of a step: the routine has it filled from its own configuration, and a handler
gets it filled from the variables of the run as well. -/
theorem filled_in_stages {configuration : Fields} {text : String} (hneat : Neat text)
    (hplain : FillsPlainly (hydration configuration) text) :
    (∀ bindings, Fillable (hydration configuration) text → Fillable bindings text →
      ∃ between, interpolate text (hydration configuration) = .ok between ∧
        interpolate between bindings =
          .ok (stagedText (hydration configuration) bindings text)) ∧
    ∀ (X : Type) (template : Template) (scope name createdBy : String) (routine : Routine)
      (before made : Engine X),
      (instantiate template scope configuration name createdBy).perform before =
        (.ok routine, made) →
      routine.definition =
        template.definition.mapConfigTexts (filled (hydration configuration)) ∧
      ∀ step ∈ template.definition.steps, ∀ field,
        Dict.get? step.config field = some (.text text) →
      ∀ (engine : Engine X) (intent : Intent) (handler : Handler X),
        intent.step = step.mapConfigTexts (filled (hydration configuration)) →
        engine.registry.find intent.step.handlerKey = .ok handler →
        (∀ other ∈ Value.textsOfFields intent.step.config,
          Fillable (.object intent.context.bindings) other) →
        ∃ config : Fields,
          Dict.get? config field = some (.text (stagedText (hydration configuration)
            (.object intent.context.bindings) text)) ∧
          ∀ perform rely outcome engine',
            Activity.Ends rely ((surroundings perform).answer intent) engine outcome engine' ↔
              Activity.Ends rely ((surroundings perform).run handler intent.context config)
                engine outcome engine' := by
  refine ⟨fun bindings hfirst hsecond => ?_, ?_⟩
  · refine ⟨_, (interpolate_hinges (hydration configuration) text).ok hfirst, ?_⟩
    rw [(interpolate_hinges bindings _).ok (fillable_filled hneat hplain hsecond),
      filled_filled hneat hplain, stagedText]
  · intro X template scope name createdBy routine before made hinstantiate
    refine ⟨Engine.definition_of_instantiate hinstantiate, ?_⟩
    intro step _ field hfield engine intent handler hstep hhandler hfillable
    refine ⟨_, ?_, fun perform rely outcome engine' => Engine.ends_answer_iff hhandler hfillable⟩
    rw [hstep, Step.mapConfigTexts, Value.mapFields_eq_map, Dict.get?_map, Dict.get?_map, hfield,
      stagedText, ← filled_filled hneat hplain]
    rfl

/-- The configuration has a name, and so has the payload, which has a word that looks like a
placeholder too. -/
theorem filled_in_stages_at_tag :
    let text :=
      "\x7b\x7bname\x7d\x7d/\x7b\x7b config.name \x7d\x7d/\x7b\x7bword\x7d\x7d\x7b\x7bgone\x7d\x7d"
    let configuration : Fields := [("name", .text "Ann")]
    let tag : Step := { id := "a", type := "tag", config := [("tag_name", .text text)] }
    let start : Step := { id := "t", type := "trigger", key := some "go" }
    let template : Template :=
      { id := "tpl", key := "tpl", name := "Tags"
        definition := ⟨[start, tag], [{ source := "t", target := "a" }]⟩ }
    let context : Context :=
      { routine := "r", scope := "s"
        payload := [("name", .text "Bob"), ("word", .text "\x7b\x7bname\x7d\x7d")] }
    let hydrated := tag.mapConfigTexts (filled (hydration configuration))
    let engine : Engine Empty := .ofSettings {} .inMemory
    Neat text ∧ FillsPlainly (hydration configuration) text ∧
      (∃ between, interpolate text (hydration configuration) = .ok between ∧
        interpolate between (.object context.bindings) =
          .ok "Ann/Ann/\x7b\x7bname\x7d\x7d\x7b\x7bgone\x7d\x7d") ∧
      ∃ routine made,
        (instantiate template "s" configuration "" "").perform engine = (.ok routine, made) ∧
        hydrated ∈ routine.definition.steps ∧
        ∃ config : Fields,
          Dict.get? config "tag_name" =
            some (.text "Ann/Ann/\x7b\x7bname\x7d\x7d\x7b\x7bgone\x7d\x7d") ∧
          ∀ perform rely outcome engine',
            Activity.Ends rely ((surroundings perform).answer ⟨"r", "x", hydrated, context⟩) engine
                outcome engine' ↔
              Activity.Ends rely ((surroundings perform).run (.builtin .addTag) context config)
                engine outcome engine' := by
  intro text configuration tag start template context hydrated engine
  have hneat : Neat text := neat_iff.mpr (by decide +kernel)
  have hholes : (Split.ofPieces (pieces text.toList)).holes =
      ["name".toList, " config.name ".toList, "word".toList, "gone".toList] := by decide +kernel
  have hplain : FillsPlainly (hydration configuration) text := by
    intro inner hinner v hfound
    replace hinner := hholes ▸ Split.mem_holes_ofPieces.mpr hinner
    simp only [List.mem_cons, List.not_mem_nil, or_false] at hinner
    rcases hinner with rfl | rfl | rfl | rfl
    · obtain rfl : Value.text "Ann" = v := Option.some.inj (Eq.trans (by decide +kernel) hfound)
      decide
    · obtain rfl : Value.text "Ann" = v := Option.some.inj (Eq.trans (by decide +kernel) hfound)
      decide
    · cases Eq.trans (show none = _ by decide +kernel) hfound
    · cases Eq.trans (show none = _ by decide +kernel) hfound
  have hfirst : interpolate text (hydration configuration) =
      .ok "Ann/Ann/\x7b\x7bword\x7d\x7d\x7b\x7bgone\x7d\x7d" := by decide +kernel
  have hsecond : interpolate text (.object context.bindings) =
      .ok "Bob/\x7b\x7b config.name \x7d\x7d/\x7b\x7bname\x7d\x7d\x7b\x7bgone\x7d\x7d" := by
    decide +kernel
  have hconfig : interpolateFields (.object context.bindings) hydrated.config =
      .ok [("tag_name", .text "Ann/Ann/\x7b\x7bname\x7d\x7d\x7b\x7bgone\x7d\x7d")] := by
    decide +kernel
  have hstaged : stagedText (hydration configuration) (.object context.bindings) text =
      "Ann/Ann/\x7b\x7bname\x7d\x7d\x7b\x7bgone\x7d\x7d" := by decide +kernel
  obtain ⟨hstages, hsteps⟩ := filled_in_stages hneat hplain
  rw [← hstaged]
  refine ⟨hneat, hplain, ?_, ?_⟩
  · exact hstages (.object context.bindings) ((interpolate_hinges _ _).ok_iff.mp hfirst).1
      ((interpolate_hinges _ _).ok_iff.mp hsecond).1
  have hok : ((instantiate template "s" configuration "" "").perform engine).1.isOk = true := by
    decide +kernel
  rcases hmade : (instantiate template "s" configuration "" "").perform engine
    with ⟨fault | routine, made⟩
  · rw [hmade] at hok
    cases hok
  · obtain ⟨hdefinition, hstep⟩ := hsteps Empty template "s" "" "" routine engine made hmade
    refine ⟨routine, made, rfl, ?_, ?_⟩
    · rw [hdefinition]
      exact List.mem_cons_of_mem _ List.mem_cons_self
    · exact hstep tag (by simp [template]) "tag_name" rfl engine ⟨"r", "x", hydrated, context⟩
        (.builtin .addTag) rfl rfl
        ((interpolateFields_hinges (.object context.bindings) hydrated.config).ok_iff.mp hconfig).1

end Workflow
