import Mathlib.Data.List.TakeWhile
import Workflow.Proofs.Placeholder.Filled

/-!
# A text splits in one way

Two placeholders in a text never overlap, because the braces at the front of a placeholder open and
all that follow close. So a text splits in one way into placeholders and stretches of other
characters that hold no placeholder, and reading it from left to right finds this way. What is put
in the place of a placeholder stands between its neighbours and is not read again.
-/

namespace Workflow.Placeholder

/-- No brace is among the characters. -/
def Braceless (cs : List Char) : Prop := ∀ c ∈ cs, isBrace c = false

instance (cs : List Char) : Decidable (Braceless cs) :=
  List.decidableBAll (fun c => isBrace c = false) cs

/-- The characters hold no placeholder. -/
def Holeless (cs : List Char) : Prop :=
  ∀ inner, Braceless inner → ¬ (Piece.hole inner).source <:+: cs

theorem takeWhile_braceless {inner : List Char} (h : Braceless inner) {c : Char}
    (hc : isBrace c = true) (rest : List Char) :
    (inner ++ c :: rest).takeWhile (!isBrace ·) = inner ∧
      (inner ++ c :: rest).dropWhile (!isBrace ·) = c :: rest := by
  have hall : ∀ x ∈ inner, (!isBrace x) = true := by
    intro x hx
    rw [h x hx]
    rfl
  rw [List.takeWhile_append_of_pos hall, List.dropWhile_append_of_pos hall]
  simp [hc]

/-- A text begins with a placeholder exactly if it is one with something after it. -/
theorem hole?_eq_some_iff {cs inner after : List Char} :
    hole? cs = some (inner, after) ↔ cs = (Piece.hole inner).source ++ after ∧ Braceless inner := by
  constructor
  · intro h
    unfold hole? at h
    split at h
    · rename_i rest
      split at h
      · rename_i more hdrop
        cases h
        refine ⟨?_, fun c hc => ?_⟩
        · have hrest := List.takeWhile_append_dropWhile (p := (!isBrace ·)) (l := rest)
          rw [hdrop] at hrest
          simp [Piece.source, hrest]
        · simpa using List.mem_takeWhile_imp hc
      · cases h
    · cases h
  · rintro ⟨rfl, hinner⟩
    have hclose : isBrace '\x7d' = true := by decide
    obtain ⟨htake, hdrop⟩ := takeWhile_braceless hinner hclose ('\x7d' :: after)
    simp only [Piece.source, List.cons_append, List.append_assoc, List.nil_append, hole?]
    rw [htake, hdrop]
    rfl

theorem hole?_eq_none_iff {cs : List Char} :
    hole? cs = none ↔ ∀ inner, Braceless inner → ¬ (Piece.hole inner).source <+: cs := by
  constructor
  · rintro h inner hinner ⟨after, rfl⟩
    cases h.symm.trans (hole?_eq_some_iff.mpr ⟨rfl, hinner⟩)
  · intro h
    cases hhole : hole? cs with
    | none => rfl
    | some found =>
        obtain ⟨rfl, hinner⟩ := hole?_eq_some_iff.mp hhole
        exact absurd (List.prefix_append _ _) (h _ hinner)

theorem open_not_mem {inner : List Char} (h : Braceless inner) :
    '\x7b' ∉ inner ++ ['\x7d', '\x7d'] := by
  intro hmem
  rcases List.mem_append.mp hmem with hmem | hmem
  · exact absurd (h _ hmem) (by decide)
  · exact absurd hmem (by decide)

/-- A placeholder that begins in front of another one ends in front of it. -/
theorem exists_of_overlap {inner inner' before rest rest' : List Char} (h : Braceless inner)
    (hne : before ≠ [])
    (heq : (Piece.hole inner).source ++ rest = before ++ ((Piece.hole inner').source ++ rest')) :
    ∃ between, before = (Piece.hole inner).source ++ between := by
  rcases List.append_eq_append_iff.mp heq with ⟨between, hbefore, -⟩ | ⟨shared, hsource, hshared⟩
  · exact ⟨between, hbefore⟩
  have hopen := open_not_mem h
  -- what both placeholders share would begin with two braces that open
  cases shared with
  | nil => exact ⟨[], by rw [hsource, List.append_nil, List.append_nil]⟩
  | cons c shared =>
      simp only [Piece.source, List.cons_append, List.cons.injEq] at hshared
      obtain ⟨rfl, hshared⟩ := hshared
      exfalso
      cases before with
      | nil => exact hne rfl
      | cons b before =>
          simp only [Piece.source, List.cons_append, List.cons.injEq] at hsource
          obtain ⟨rfl, hsource⟩ := hsource
          cases before with
          | nil =>
              obtain rfl : inner ++ ['\x7d', '\x7d'] = shared := (List.cons.inj hsource).2
              cases inner with
              | nil => simp at hshared
              | cons c inner =>
                  simp only [List.cons_append, List.cons.injEq] at hshared
                  exact hopen (by simp [← hshared.1])
          | cons b before =>
              have hinside := (List.cons.inj hsource).2
              exact hopen (hinside ▸ List.mem_append_right before List.mem_cons_self)

/-- The characters after a stretch: none, or a placeholder and more. -/
def Resumes (cs : List Char) : Prop :=
  cs = [] ∨ ∃ inner more, Braceless inner ∧ cs = (Piece.hole inner).source ++ more

/-- No placeholder begins in a stretch that holds none. -/
theorem hole?_eq_none_of_holeless {c : Char} {plain rest : List Char} (h : Holeless (c :: plain))
    (hrest : Resumes rest) : hole? (c :: plain ++ rest) = none := by
  refine hole?_eq_none_iff.mpr fun inner hinner hprefix => ?_
  obtain ⟨after, hafter⟩ := hprefix
  rcases hrest with rfl | ⟨inner', more, -, rfl⟩
  · rw [List.append_nil] at hafter
    exact h inner hinner ⟨[], after, hafter⟩
  · obtain ⟨between, hbetween⟩ := exists_of_overlap hinner (List.cons_ne_nil c plain) hafter
    exact h inner hinner ⟨[], between, hbetween.symm⟩

theorem holeless_nil : Holeless [] := by
  intro inner _ hwithin
  have hnil := List.eq_nil_of_infix_nil hwithin
  simp [Piece.source] at hnil

theorem Holeless.tail {c : Char} {plain : List Char} (h : Holeless (c :: plain)) :
    Holeless plain := by
  intro inner hinner hwithin
  exact h inner hinner (hwithin.trans (List.suffix_cons c plain).isInfix)

theorem pieces_nil : pieces [] = [] := by
  rw [pieces]
  rfl

theorem pieces_cons {c : Char} {rest : List Char} (h : hole? (c :: rest) = none) :
    pieces (c :: rest) = .plain c :: pieces rest := by
  rw [pieces]
  split
  · rename_i hhole
    cases h.symm.trans hhole
  · rfl

theorem pieces_hole {inner : List Char} (h : Braceless inner) (rest : List Char) :
    pieces ((Piece.hole inner).source ++ rest) = .hole inner :: pieces rest := by
  have hhole : hole? ((Piece.hole inner).source ++ rest) = some (inner, rest) :=
    hole?_eq_some_iff.mpr ⟨rfl, h⟩
  rw [pieces]
  split
  · rename_i hhole'
    cases hhole.symm.trans hhole'
    rfl
  · rename_i hnone
    cases hnone.symm.trans hhole

theorem pieces_holeless {plain rest : List Char} (h : Holeless plain) (hrest : Resumes rest) :
    pieces (plain ++ rest) = plain.map .plain ++ pieces rest := by
  induction plain with
  | nil => rfl
  | cons c plain ih =>
      have hhead := pieces_cons (hole?_eq_none_of_holeless h hrest)
      rw [List.map_cons, List.cons_append, List.cons_append, ← ih h.tail]
      exact hhead

/-- A text in stretches: what stands in front of the first placeholder, and each placeholder with
what stands between it and the next one. -/
structure Split where
  front : List Char
  rest : List (List Char × List Char)
  deriving DecidableEq, Repr

namespace Split

/-- Each placeholder with something in its place, and what stands after it. -/
def continued (f : List Char → List Char) (rest : List (List Char × List Char)) : List Char :=
  rest.flatMap fun part => f part.1 ++ part.2

/-- The characters of a split with something in the place of each placeholder. -/
def write (f : List Char → List Char) (split : Split) : List Char :=
  split.front ++ continued f split.rest

/-- A placeholder as it is written. -/
def asWritten (inner : List Char) : List Char := (Piece.hole inner).source

/-- The insides of the placeholders, in their order. -/
def holes (split : Split) : List (List Char) := split.rest.map Prod.fst

/-- The text splits this way: placeholders without braces inside, and no others between them. -/
structure Of (split : Split) (cs : List Char) : Prop where
  source : split.write asWritten = cs
  inside : ∀ part ∈ split.rest, Braceless part.1
  front : Holeless split.front
  between : ∀ part ∈ split.rest, Holeless part.2

/-- The pieces of a split. -/
def pieces (split : Split) : List Piece :=
  split.front.map .plain ++ split.rest.flatMap fun part => .hole part.1 :: part.2.map .plain

/-- The split that pieces make up. -/
def ofPieces : List Piece → Split
  | [] => ⟨[], []⟩
  | .plain c :: rest => ⟨c :: (ofPieces rest).front, (ofPieces rest).rest⟩
  | .hole inner :: rest => ⟨[], (inner, (ofPieces rest).front) :: (ofPieces rest).rest⟩

theorem continued_cons (f : List Char → List Char) (part : List Char × List Char)
    (rest : List (List Char × List Char)) :
    continued f (part :: rest) = f part.1 ++ (part.2 ++ continued f rest) := by
  simp [continued]

theorem ofPieces_plain (plain : List Char) (ps : List Piece) :
    ofPieces (plain.map .plain ++ ps) = ⟨plain ++ (ofPieces ps).front, (ofPieces ps).rest⟩ := by
  induction plain with
  | nil => rfl
  | cons c plain ih => rw [List.map_cons, List.cons_append, ofPieces, ih, List.cons_append]

/-- A split is found again in its pieces. -/
theorem ofPieces_pieces (split : Split) : ofPieces split.pieces = split := by
  obtain ⟨front, rest⟩ := split
  rw [pieces, ofPieces_plain]
  induction rest generalizing front with
  | nil => simp [ofPieces]
  | cons part rest ih =>
      have hpart := ih part.2
      simp only [Split.mk.injEq] at hpart
      simp [ofPieces, ofPieces_plain, hpart]

theorem write_ofPieces (f : List Char → List Char) (ps : List Piece) :
    (ofPieces ps).write f = ps.flatMap (Piece.write f) := by
  induction ps with
  | nil => rfl
  | cons piece rest ih =>
      rw [List.flatMap_cons, ← ih]
      cases piece <;> simp [ofPieces, write, continued, Piece.write]

theorem mem_holes_ofPieces {ps : List Piece} {inner : List Char} :
    inner ∈ (ofPieces ps).holes ↔ Piece.hole inner ∈ ps := by
  induction ps with
  | nil => simp [ofPieces, holes]
  | cons piece rest ih =>
      rw [List.mem_cons, ← ih]
      cases piece <;> simp [ofPieces, holes]

theorem resumes_continued {rest : List (List Char × List Char)}
    (h : ∀ part ∈ rest, Braceless part.1) : Resumes (continued asWritten rest) := by
  cases rest with
  | nil => exact .inl rfl
  | cons part rest =>
      rw [continued_cons]
      exact .inr ⟨part.1, _, h part List.mem_cons_self, rfl⟩

/-- A text is read into the pieces of any of its splits. -/
theorem Of.pieces_eq {split : Split} {cs : List Char} (h : split.Of cs) :
    Placeholder.pieces cs = split.pieces := by
  obtain ⟨front, rest⟩ := split
  obtain ⟨rfl, hinside, hfront, hbetween⟩ := h
  rw [write, pieces, pieces_holeless hfront (resumes_continued hinside)]
  congr 1
  clear hfront
  induction rest with
  | nil => exact pieces_nil
  | cons part rest ih =>
      obtain ⟨hinner, hinside⟩ := List.forall_mem_cons.mp hinside
      obtain ⟨hpart, hbetween⟩ := List.forall_mem_cons.mp hbetween
      have hrest := pieces_holeless hpart (resumes_continued hinside)
      rw [continued_cons, asWritten, pieces_hole hinner, hrest, ih hinside hbetween]
      rfl

/-- The pieces that are read make up a split. -/
theorem of_ofPieces (cs : List Char) : (ofPieces (Placeholder.pieces cs)).Of cs := by
  fun_induction Placeholder.pieces cs with
  | case1 cs inner after hhole _ ih =>
      obtain ⟨rfl, hinner⟩ := hole?_eq_some_iff.mp hhole
      refine ⟨?_, ?_, holeless_nil, ?_⟩
      · rw [ofPieces, write, continued_cons]
        exact congrArg (asWritten inner ++ ·) ih.source
      · exact List.forall_mem_cons.mpr ⟨hinner, ih.inside⟩
      · exact List.forall_mem_cons.mpr ⟨ih.front, ih.between⟩
  | case2 => exact ⟨rfl, by simp [ofPieces], holeless_nil, by simp [ofPieces]⟩
  | case3 c rest hhole ih =>
      refine ⟨congrArg (c :: ·) ih.source, ih.inside, ?_, ih.between⟩
      intro inner hinner hwithin
      rcases List.infix_cons_iff.mp hwithin with hprefix | hwithin
      · have hfront : (ofPieces (Placeholder.pieces rest)).front <+: rest := ⟨_, ih.source⟩
        have hwhole := hprefix.trans ((List.prefix_cons_inj c).mpr hfront)
        exact hole?_eq_none_iff.mp hhole inner hinner hwhole
      · exact ih.front inner hinner hwithin

theorem Of.eq_ofPieces {split : Split} {cs : List Char} (h : split.Of cs) :
    split = ofPieces (Placeholder.pieces cs) := by
  rw [h.pieces_eq, ofPieces_pieces]

/-- Each placeholder is the first one that begins in what is left of the text. -/
def Leftmost : List Char → List (List Char × List Char) → Prop
  | _, [] => True
  | front, part :: rest =>
    (∀ before inner after, Braceless inner →
      front ++ continued asWritten (part :: rest) = before ++ (asWritten inner ++ after) →
        front.length ≤ before.length) ∧ Leftmost part.2 rest

theorem leftmost_of_holeless {front : List Char} {rest : List (List Char × List Char)}
    (hfront : Holeless front) (hbetween : ∀ part ∈ rest, Holeless part.2) :
    Leftmost front rest := by
  induction rest generalizing front with
  | nil => trivial
  | cons part rest ih =>
      obtain ⟨hpart, hrest⟩ := List.forall_mem_cons.mp hbetween
      refine ⟨?_, ih hpart hrest⟩
      intro before inner after hinner heq
      rw [continued_cons] at heq
      rcases List.append_eq_append_iff.mp heq with ⟨more, rfl, -⟩ | ⟨missed, rfl, hmissed⟩
      · simp
      · by_cases hnil : missed = []
        · simp [hnil]
        · obtain ⟨between, rfl⟩ := exists_of_overlap hinner hnil hmissed
          exact absurd ⟨before, between, by simp⟩ (hfront inner hinner)

end Split

/-- Filling is a single pass from left to right. A text splits in one way into placeholders, each
the first that begins in what is left, and stretches without any. Exactly as long as no path of a
placeholder ends in a fault and what the paths lead to has a text, the text is filled with what the
paths lead to, one after the other: the stretches stay as they are, and so does a placeholder whose
path leads to nothing. -/
theorem interpolate_split (text : String) :
    ∃ split : Split, split.Of text.toList ∧ Split.Leftmost split.front split.rest ∧
      (∀ other : Split, other.Of text.toList → other = split) ∧
      ∀ context,
        interpolate text context = .ok (String.ofList (split.write (replacement context))) ↔
          ∀ inner ∈ split.holes, ∃ found,
            resolve context (String.ofList (Text.trimChars inner)) = .ok found ∧
              found.all Value.writable = true := by
  have hof := Split.of_ofPieces text.toList
  refine ⟨Split.ofPieces (pieces text.toList), hof, ?_, fun other hother => hother.eq_ofPieces, ?_⟩
  · exact Split.leftmost_of_holeless hof.front hof.between
  · intro context
    rw [Split.write_ofPieces]
    refine (interpolate_hinges context text).ok_iff.trans ((and_iff_left rfl).trans ?_)
    refine forall_congr' fun inner => ?_
    rw [Split.mem_holes_ofPieces, fills_iff]
    rfl

/-- Braces around a placeholder, a placeholder within braces, one with nothing inside, and a value
that looks like a placeholder itself. -/
theorem interpolate_split_among_braces :
    let text :=
      "\x7b\x7b\x7ba\x7d\x7d\x7d\x7b\x7b b \x7d\x7d\x7b\x7ba \x7b\x7bb\x7d\x7d\x7b\x7b\x7d\x7d"
    let context : Value := .object [("a", .text "\x7b\x7bb\x7d\x7d"), ("b", .int 7)]
    let split : Split :=
      ⟨['\x7b'], [(['a'], ['\x7d']), ([' ', 'b', ' '], ['\x7b', '\x7b', 'a', ' ']), (['b'], []),
        ([], [])]⟩
    split.Of text.toList ∧
      (∀ inner ∈ split.holes, ∃ found,
        resolve context (String.ofList (Text.trimChars inner)) = .ok found ∧
          found.all Value.writable = true) ∧
      interpolate text context =
        .ok "\x7b\x7b\x7bb\x7d\x7d\x7d7\x7b\x7ba 7\x7b\x7b\x7d\x7d" := by
  intro text context split
  have hread : Split.ofPieces (pieces text.toList) = split := by decide +kernel
  have hof : split.Of text.toList := hread ▸ Split.of_ofPieces text.toList
  have hresolve : ∀ inner ∈ split.holes, ∃ found,
      resolve context (String.ofList (Text.trimChars inner)) = .ok found ∧
        found.all Value.writable = true := by
    intro inner hinner
    simp only [split, Split.holes, List.map_cons, List.map_nil, List.mem_cons, List.not_mem_nil,
      or_false] at hinner
    rcases hinner with rfl | rfl | rfl | rfl <;> exact ⟨_, rfl, by decide⟩
  obtain ⟨found, -, -, hunique, hfill⟩ := interpolate_split text
  obtain rfl := hunique split hof
  refine ⟨hof, hresolve, ((hfill context).mpr hresolve).trans (congrArg Except.ok ?_)⟩
  decide +kernel

end Workflow.Placeholder
