import Workflow.Terminal.Emoji.Name
import Workflow.Text.Blank
import Workflow.Text.CharacterName
import Workflow.Text.Case

/-!
# Emoji by name

A name between colons stands for an emoji, as in `:sparkles:`. Behind the name it may be said
whether the emoji is shown as a picture or as a plain sign. A name that no emoji has is text.
-/

namespace Workflow.Emoji

/-- The tones of skin, each with its code. -/
def tones : List (String × Nat) :=
  [("_light_skin_tone", 0x1F3FB), ("_medium-light_skin_tone", 0x1F3FC),
   ("_medium_skin_tone", 0x1F3FD), ("_medium-dark_skin_tone", 0x1F3FE),
   ("_dark_skin_tone", 0x1F3FF)]

/-- The entries of all tables: codes and names. -/
def entries : List (String × List String) :=
  [faces, flags, people, pictures, signs].flatMap fun table =>
    ((String.join (table.splitOn "\n")).splitOn ";").filterMap fun entry =>
      match entry.splitOn ":" with
      | [codes, names] => some (codes, names.splitOn ",")
      | _ => none

/-- The characters that codes stand for. A tone of skin goes where there is a place for one. -/
def chars? (tone : Option Nat) (codes : String) : Option (List Char) :=
  (codes.splitOn "-").mapM fun code =>
    (if code = "~" then tone else Text.hexNumber? code.toList).map Char.ofNat

/-- The emoji with a name, in a tone of skin if there is one. -/
def shown? (tone : Option Nat) (name : String) : Option (List Char) :=
  entries.findSome? fun (codes, names) =>
    if names.contains name && (codes.splitOn "-").contains "~" = tone.isSome then
      chars? tone codes
    else none

/-- A text without an end. -/
def withoutEnd? (ending s : String) : Option String :=
  (Text.after? ending.toList.reverse s.toList.reverse).map fun rest =>
    String.ofList rest.reverse

/-- The emoji with a name. -/
def named? (name : String) : Option (List Char) :=
  (shown? none name).orElse fun _ =>
    tones.findSome? fun (ending, tone) => (withoutEnd? ending name).bind (shown? (some tone))

/-- What may stand behind a name, and the character that says the same. -/
def variants : List (List Char × List Char) :=
  [("-emoji:".toList, ['\uFE0F']), ("-text:".toList, ['\uFE0E']), (":".toList, [])]

/-- The name that the characters after a colon begin with, what it is shown as, and what follows.
`passed` holds the characters of the name so far, last one first. -/
def name? (passed : List Char) : List Char → Option (String × List Char × List Char)
  | [] => none
  | c :: rest =>
    match variants.find? fun variant => variant.1.isPrefixOf (c :: rest) with
    | some (ending, variant) =>
      some (String.ofList passed.reverse, variant, (c :: rest).drop ending.length)
    | none => if Text.isBlank c then none else name? (c :: passed) rest

theorem length_lt_of_name? {passed cs variant following : List Char} {name : String}
    (h : name? passed cs = some (name, variant, following)) : following.length < cs.length := by
  induction cs generalizing passed with
  | nil => simp [name?] at h
  | cons c rest ih =>
    simp only [name?] at h
    split at h
    · rename_i ending _ found
      have inVariants := List.mem_of_find?_eq_some found
      simp only [Option.some.injEq, Prod.mk.injEq] at h
      obtain ⟨-, -, rfl⟩ := h
      have isLong : 0 < ending.length := by
        simp only [variants, List.mem_cons, Prod.mk.injEq, List.not_mem_nil, or_false] at inVariants
        rcases inVariants with ⟨rfl, -⟩ | ⟨rfl, -⟩ | ⟨rfl, -⟩ <;> decide
      simp only [List.length_drop, List.length_cons]
      omega
    · split at h
      · simp at h
      · have shorter := ih h
        simp only [List.length_cons]
        omega

/-- A text with emoji in the place of their names. A name that no emoji has is passed whole. -/
def place : List Char → List Char
  | [] => []
  | c :: rest =>
    if c = ':' then
      match h : name? [] rest with
      | some (name, variant, following) =>
        have := length_lt_of_name? h
        let whole := (c :: rest).take (rest.length + 1 - following.length)
        ((named? (Text.lower name)).map (· ++ variant)).getD whole ++ place following
      | none => c :: place rest
    else c :: place rest
  termination_by cs => cs.length

end Workflow.Emoji
