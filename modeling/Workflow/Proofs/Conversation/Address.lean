import Mathlib.Data.List.TakeWhile
import Workflow.Proofs.Conversation.Written

/-!
# Addresses that are typed

A step may ask for an address: a name, an at sign and a domain with a dot inside, all of them
without blanks. What is typed is accepted if it is an address, and also if it is one with a line end
after it, and no other text is. A step that keeps what is typed keeps the line end with it, which is
the only blank that gets into a variable in this way.

The texts that are accepted are those in which the pattern `^[^\s@]+@[^\s@]+\.[^\s@]+$` is found.
The final `$` is what lets the line end through. Looking for this pattern goes back and forth over
the repetitions, and how it comes out depends only on what is left of the text at each place.
-/

namespace Workflow

/-- What is left when both ends are cut off stands between other things. -/
theorem mem_dropLast_tail_iff {α : Type} {a : α} {l : List α} :
    a ∈ l.tail.dropLast ↔ ∃ before after, l = before ++ a :: after ∧ before ≠ [] ∧ after ≠ [] := by
  constructor
  · intro h
    cases l with
    | nil => cases h
    | cons first rest =>
        rcases List.eq_nil_or_concat' rest with rfl | ⟨inner, last, rfl⟩
        · cases h
        · rw [List.tail_cons, List.dropLast_concat] at h
          obtain ⟨before, after, rfl⟩ := List.append_of_mem h
          exact ⟨first :: before, after ++ [last], by simp, by simp, by simp⟩
  · rintro ⟨before, after, rfl, hbefore, hafter⟩
    obtain ⟨first, before, rfl⟩ := List.exists_cons_of_ne_nil hbefore
    obtain ⟨inner, last, rfl⟩ := (List.eq_nil_or_concat' after).resolve_left hafter
    rw [List.cons_append, List.tail_cons, ← List.cons_append, ← List.append_assoc,
      List.dropLast_concat]
    exact List.mem_append_right _ List.mem_cons_self

namespace Pattern

/-- The attempt succeeds. -/
def Outcome.IsHit : Outcome → Prop
  | .hit _ => True
  | .miss _ => False

theorem Outcome.isHit_orMiss {outcome : Outcome} {f : Board → Board} :
    (outcome.orMiss f).IsHit ↔ outcome.IsHit := by
  cases outcome <;> rfl

variable {cs : List Char} {go : Continuation} {P : List Char → Prop} {test : CharTest}
variable (looped : Bool) (next : Option Nat)

/-- Going on from a place of a text succeeds exactly if what is left of the text is as it should be.
-/
def Means (cs : List Char) (go : Continuation) (P : List Char → Prop) : Prop :=
  ∀ place board, place ≤ cs.length → ((go place board).IsHit ↔ P (cs.drop place))

/-- First comes a character that passes the test. -/
def TakesOne (test : CharTest) (P : List Char → Prop) (rest : List Char) : Prop :=
  ∃ c after, rest = c :: after ∧ test.has c = true ∧ P after

/-- First come characters that pass the test, at least so many. -/
def TakesRun (least : Nat) (test : CharTest) (P : List Char → Prop) (rest : List Char) : Prop :=
  ∃ front after, rest = front ++ after ∧ least ≤ front.length ∧
    (∀ c ∈ front, test.has c = true) ∧ P after

/-- Nothing is left but a line end. -/
def EndsLine (rest : List Char) : Prop := rest = [] ∨ rest = ['\n']

theorem means_chars (test : CharTest) (h : Means cs go P) :
    Means cs (fun place board => (Node.chars test).run cs.toArray looped next place board go)
      (TakesOne test P) := by
  intro place board hplace
  simp only [Node.run, List.getElem?_toArray, ← List.head?_drop, TakesOne]
  cases hrest : cs.drop place with
  | nil => simp [Outcome.IsHit]
  | cons c after =>
      have hafter : cs.drop (place + 1) = after := by rw [← List.tail_drop, hrest, List.tail_cons]
      have hlt : place < cs.length := by
        by_contra hle
        rw [List.drop_eq_nil_of_le (Nat.not_lt.mp hle)] at hrest
        cases hrest
      have hgo := h (place + 1) board hlt
      rw [hafter] at hgo
      by_cases hhas : test.has c = true
      · simp [hhas, hgo]
      · simp [hhas, Outcome.IsHit]

theorem means_finalEnd (cs : List Char) : Means cs (fun place board =>
    (Node.anchor .finalEnd).run cs.toArray looped next place board finish) EndsLine := by
  intro place board hplace
  have hends : Anchor.holds cs.toArray place .finalEnd = true ↔ EndsLine (cs.drop place) := by
    have hlength := List.length_drop (i := place) (l := cs)
    simp only [Anchor.holds, List.size_toArray, List.getElem?_toArray, ← List.head?_drop,
      Bool.or_eq_true, Bool.and_eq_true, beq_iff_eq, EndsLine]
    cases hrest : cs.drop place with
    | nil =>
        rw [hrest] at hlength
        simp only [List.length_nil] at hlength
        have : place = cs.length := by omega
        simp [this]
    | cons c after =>
        rw [hrest, List.length_cons] at hlength
        have hne : place ≠ cs.length := by omega
        have hlast : place + 1 = cs.length ↔ after = [] := by
          rw [← List.length_eq_zero_iff]
          omega
        simp [hne, hlast, and_comm]
  simp only [Node.run]
  split
  · rename_i hholds
    exact ⟨fun _ => hends.mp hholds, fun _ => trivial⟩
  · rename_i hholds
    exact ⟨False.elim, fun hline => absurd (hends.mpr hline) hholds⟩

variable {looped next}

theorem runLength_eq (place limit : Nat) :
    runLength cs.toArray test place limit =
      (((cs.drop place).take limit).takeWhile test.has).length := by
  induction limit generalizing place with
  | zero => rfl
  | succ limit ih =>
      rw [runLength, List.getElem?_toArray, ← List.head?_drop]
      cases hrest : cs.drop place with
      | nil => rfl
      | cons c after =>
          have hafter : cs.drop (place + 1) = after := by
            rw [← List.tail_drop, hrest, List.tail_cons]
          rw [List.head?_cons, List.take_succ_cons, List.takeWhile_cons]
          by_cases hhas : test.has c = true
          · simp [hhas, ih, hafter]
          · simp [hhas]

/-- What has to follow is the character that is left first. -/
def Foresees (next : Option Nat) (P : List Char → Prop) : Prop :=
  ∀ n ∈ next, ∀ rest, P rest → ∃ c ∈ rest.head?, c.toNat = n

theorem foresees_none : Foresees none P := fun _ h => nomatch h

/-- Going on from one of the places after a run of characters. -/
def goOnFrom (text : Array Char) (next : Option Nat) (looped : Bool) (earlier : Board)
    (go : Continuation) (place : Nat) (board : Board) : Outcome :=
  if next.any fun n => text[place]?.all fun c => c.toNat != n then .miss board
  else (go place (board.at_ place)).orMiss (·.undo earlier looped)

variable {earlier : Board} {place : Nat}

theorem isHit_goOnFrom (h : Means cs go P) (hnext : Foresees next P) {board : Board}
    (hle : place ≤ cs.length) :
    (goOnFrom cs.toArray next looped earlier go place board).IsHit ↔ P (cs.drop place) := by
  rw [goOnFrom]
  split
  · rename_i hpassed
    refine ⟨False.elim, fun hP => ?_⟩
    cases next with
    | none => cases hpassed
    | some n =>
        obtain ⟨c, hc, hn⟩ := hnext n rfl _ hP
        rw [List.getElem?_toArray, ← List.head?_drop, hc] at hpassed
        simp [hn] at hpassed
  · rw [Outcome.isHit_orMiss]
    exact h _ _ hle

theorem isHit_giveBack (h : Means cs go P) (hnext : Foresees next P) {spare : Nat} (board : Board)
    (hle : place + spare ≤ cs.length) :
    (giveBack cs.toArray next looped earlier place go spare board).IsHit ↔
      ∃ k ≤ spare, P (cs.drop (place + k)) := by
  have hhere : (goOnFrom cs.toArray next looped earlier go (place + spare) board).IsHit ↔
      P (cs.drop (place + spare)) := isHit_goOnFrom h hnext hle
  induction spare generalizing board with
  | zero =>
      rw [giveBack.eq_2 cs.toArray next looped earlier place go board 0 nofun]
      exact hhere.trans (by simp)
  | succ spare ih =>
      have hbefore : place + spare ≤ cs.length := Nat.le_of_succ_le hle
      cases hattempt : goOnFrom cs.toArray next looped earlier go (place + (spare + 1)) board with
      | hit board' =>
          rw [giveBack.eq_2 cs.toArray next looped earlier place go board (spare + 1)
            fun _ _ _ hmiss => Outcome.noConfusion (hattempt.symm.trans hmiss)]
          exact hhere.trans ⟨fun hP => ⟨spare + 1, Nat.le_refl _, hP⟩, fun _ =>
            hhere.mp (hattempt ▸ trivial)⟩
      | miss board' =>
          rw [hattempt] at hhere
          rw [giveBack.eq_1 cs.toArray next looped earlier place go board spare board' hattempt]
          refine (ih board' hbefore (isHit_goOnFrom h hnext hbefore)).trans ?_
          constructor
          · rintro ⟨k, hk, hP⟩
            exact ⟨k, Nat.le_succ_of_le hk, hP⟩
          · rintro ⟨k, hk, hP⟩
            rcases Nat.le_succ_iff.mp hk with hk | rfl
            · exact ⟨k, hk, hP⟩
            · exact (hhere.mpr hP).elim

/-- A repetition of a test takes some characters that pass it, and any number of them from the least
one on will do. -/
theorem means_loop (looped : Bool) (test : CharTest) (least : Nat) (h : Means cs go P)
    (hnext : Foresees next P) :
    Means cs (fun place board => (Node.loop .greedy least none (.chars test)).run cs.toArray looped
      next place board go) (TakesRun least test P) := by
  intro place board hplace
  have hroom : (cs.drop place).length = cs.length - place := List.length_drop
  have hcount : runLength cs.toArray test place (cs.length - place) =
      ((cs.drop place).takeWhile test.has).length := by
    rw [runLength_eq, ← hroom, List.take_length]
  have hrun : ((cs.drop place).takeWhile test.has).length ≤ cs.length - place :=
    hroom ▸ (List.takeWhile_prefix _).length_le
  have hany : TakesRun least test P (cs.drop place) ↔
      ∃ n, least ≤ n ∧ n ≤ ((cs.drop place).takeWhile test.has).length ∧
        P (cs.drop (place + n)) := by
    constructor
    · rintro ⟨front, after, hsplit, hleast, hall, hP⟩
      refine ⟨front.length, hleast, ?_, ?_⟩
      · rw [hsplit, List.takeWhile_append_of_pos hall, List.length_append]
        exact Nat.le_add_right _ _
      · rwa [← List.drop_drop, hsplit, List.drop_left]
    · rintro ⟨n, hleast, hle, hP⟩
      refine ⟨(cs.drop place).take n, (cs.drop place).drop n, (List.take_append_drop _ _).symm, ?_,
        fun c hc => ?_, by rwa [List.drop_drop]⟩
      · rw [List.length_take, hroom]
        omega
      · have htaken : (cs.drop place).take n <+: (cs.drop place).takeWhile test.has :=
          List.prefix_of_prefix_length_le (List.take_prefix _ _) (List.takeWhile_prefix _)
            ((List.length_take_le _ _).trans hle)
        exact List.mem_takeWhile_imp (p := fun c => test.has c) (htaken.subset hc)
  simp only [Node.run, repeatTest, List.size_toArray, Option.getD_none, Nat.min_self, hcount]
  rw [hany]
  split
  · refine ⟨False.elim, ?_⟩
    rintro ⟨n, hleast, hle, -⟩
    omega
  · split
    · refine ⟨False.elim, ?_⟩
      rintro ⟨n, hleast, hle, -⟩
      omega
    · rw [isHit_giveBack h hnext _ (by omega)]
      constructor
      · rintro ⟨k, hk, hP⟩
        exact ⟨least + k, Nat.le_add_right _ _, by omega, by rwa [← Nat.add_assoc]⟩
      · rintro ⟨n, hleast, hle, hP⟩
        obtain ⟨k, rfl⟩ := Nat.exists_eq_add_of_le hleast
        exact ⟨k, by omega, by rwa [Nat.add_assoc]⟩

end Pattern

namespace Reply

open Pattern

/-- One of the parts of an address: some characters, none of them blank and none an at sign. -/
def IsPart (cs : List Char) : Prop := cs ≠ [] ∧ ∀ c ∈ cs, Text.isBlank c = false ∧ c ≠ '@'

/-- A name, an at sign and a domain that ends in a dot and one more part. -/
def Address (cs : List Char) : Prop :=
  ∃ name domain top, cs = name ++ '@' :: (domain ++ '.' :: top) ∧
    IsPart name ∧ IsPart domain ∧ IsPart top

/-- An address with a line end after it. -/
def EndedAddress (cs : List Char) : Prop := ∃ address, Address address ∧ cs = address ++ ['\n']

/-- An address, with a line end after it or without. -/
def AddressLine (cs : List Char) : Prop := Address cs ∨ EndedAddress cs

variable {cs : List Char}

theorem isAddressChar_iff {c : Char} :
    isAddressChar c = true ↔ Text.isBlank c = false ∧ c ≠ '@' := by
  simp [isAddressChar]

theorem isPart_iff : IsPart cs ↔ cs ≠ [] ∧ ∀ c ∈ cs, isAddressChar c = true := by
  simp only [IsPart, isAddressChar_iff]

/-- No blank is in an address. -/
theorem Address.not_blank (h : Address cs) {c : Char} (hc : c ∈ cs) : Text.isBlank c = false := by
  obtain ⟨name, domain, top, rfl, hname, hdomain, htop⟩ := h
  simp only [List.mem_append, List.mem_cons] at hc
  rcases hc with hc | rfl | hc | rfl | hc
  · exact (hname.2 c hc).1
  · decide
  · exact (hdomain.2 c hc).1
  · decide
  · exact (htop.2 c hc).1

theorem not_address_concat : ¬ Address (cs ++ ['\n']) := fun h =>
  absurd (h.not_blank (List.mem_append_right _ List.mem_cons_self)) (by decide)

theorem EndedAddress.not_address (h : EndedAddress cs) : ¬ Address cs := by
  obtain ⟨address, -, rfl⟩ := h
  exact not_address_concat

/-- The texts between addresses and addresses with a line end are only the latter. -/
theorem addressLine_iff_address_iff : (AddressLine cs ↔ Address cs) ↔ ¬ EndedAddress cs :=
  ⟨fun h hended => hended.not_address (h.mp (.inr hended)),
    fun h => ⟨fun hline => hline.resolve_right h, .inl⟩⟩

/-- The line end is the only blank. -/
theorem AddressLine.exists_blank_iff (h : AddressLine cs) :
    (∃ c ∈ cs, Text.isBlank c = true) ↔ EndedAddress cs := by
  constructor
  · rintro ⟨c, hc, hblank⟩
    refine h.resolve_left fun haddress => ?_
    rw [haddress.not_blank hc] at hblank
    exact Bool.noConfusion hblank
  · rintro ⟨address, -, rfl⟩
    exact ⟨'\n', List.mem_append_right _ List.mem_cons_self, by decide⟩

/-- A domain is two parts with a dot between them; either of them may hold more dots. -/
theorem isDomain_iff : isDomain cs = true ↔
    ∃ domain top, cs = domain ++ '.' :: top ∧ IsPart domain ∧ IsPart top := by
  simp only [isDomain, Bool.and_eq_true, List.all_eq_true, List.contains_iff_mem,
    mem_dropLast_tail_iff, isPart_iff]
  constructor
  · rintro ⟨hall, domain, top, rfl, hdomain, htop⟩
    rw [List.forall_mem_append, List.forall_mem_cons] at hall
    exact ⟨domain, top, rfl, ⟨hdomain, hall.1⟩, htop, hall.2.2⟩
  · rintro ⟨domain, top, rfl, ⟨hdomain, hall⟩, htop, hall'⟩
    refine ⟨?_, domain, top, rfl, hdomain, htop⟩
    rw [List.forall_mem_append, List.forall_mem_cons]
    exact ⟨hall, by decide, hall'⟩

/-- The name of an address ends at its only at sign. -/
theorem isAddress_iff_dropFinalBreak {s : String} :
    isAddress s = true ↔ Address (dropFinalBreak s.toList) := by
  rw [isAddress]
  generalize dropFinalBreak s.toList = cs
  simp only [Bool.and_eq_true, decide_eq_true_eq, Bool.not_eq_true', List.isEmpty_eq_false_iff,
    isDomain_iff]
  constructor
  · rintro ⟨⟨hname, hat⟩, domain, top, htail, hdomain, htop⟩
    obtain ⟨rest, hrest⟩ := List.head?_eq_some_iff.mp hat
    rw [hrest, List.tail_cons] at htail
    refine ⟨cs.takeWhile isAddressChar, domain, top, ?_, ?_, hdomain, htop⟩
    · rw [← htail, ← hrest, List.takeWhile_append_dropWhile]
    · exact isPart_iff.mpr ⟨hname, fun c hc => List.mem_takeWhile_imp hc⟩
  · rintro ⟨name, domain, top, rfl, hname, hdomain, htop⟩
    obtain ⟨hsome, hall⟩ := isPart_iff.mp hname
    rw [List.takeWhile_append_of_pos hall, List.dropWhile_append_of_pos hall,
      List.takeWhile_cons_of_neg (by decide), List.dropWhile_cons_of_neg (by decide)]
    exact ⟨⟨by simpa using hsome, rfl⟩, domain, top, rfl, hdomain, htop⟩

theorem address_dropFinalBreak_iff : Address (dropFinalBreak cs) ↔ AddressLine cs := by
  by_cases hlast : cs.getLast? = some '\n'
  · obtain ⟨before, rfl⟩ := List.getLast?_eq_some_iff.mp hlast
    rw [dropFinalBreak, if_pos hlast, List.dropLast_concat]
    constructor
    · exact fun h => .inr ⟨before, h, rfl⟩
    · rintro (h | ⟨address, h, heq⟩)
      · exact absurd h not_address_concat
      · rwa [List.append_cancel_right heq]
  · rw [dropFinalBreak, if_neg hlast]
    constructor
    · exact .inl
    · rintro (h | ⟨address, -, rfl⟩)
      · exact h
      · exact absurd List.getLast?_concat hlast

theorem isAddress_iff {s : String} : isAddress s = true ↔ AddressLine s.toList :=
  isAddress_iff_dropFinalBreak.trans address_dropFinalBreak_iff

/-- A character that is neither blank nor an at sign. -/
def partTest : CharTest :=
  .among { negated := true, items := [.members .space false false, .single 64] }

/-- Some such characters. -/
def partNode : Node := .loop .greedy 1 none (.chars partTest)

/-- A name, an at sign, and two parts with a dot between them, with a line end after it or without.
-/
def lineNode : Node :=
  .seq partNode (.seq (.chars (.literal 64 .exact)) (.seq partNode
    (.seq (.chars (.literal 46 .exact)) (.seq partNode (.anchor .finalEnd)))))

/-- The pattern of addresses. -/
def addressQuery : Query where
  node := .seq (.anchor .textStart) lineNode
  least := 5
  plain := false

theorem has_partTest (c : Char) : partTest.has c = isAddressChar c := by
  have hat : (c.toNat == 64) = (c == '@') := by
    rw [Bool.eq_iff_iff, beq_iff_eq, beq_iff_eq]
    exact ⟨fun h => Char.toNat_inj.mp h, fun h => h ▸ rfl⟩
  simp [partTest, CharTest.has, CharSet.has, SetItem.hasExact, Category.has, Category.hasAny,
    isAddressChar, hat, bne]

theorem has_literal {n : Nat} {c : Char} :
    (CharTest.literal n .exact).has c = true ↔ n = c.toNat := beq_iff_eq

theorem foresees_literal {n : Nat} {P : List Char → Prop} :
    Foresees (some n) (TakesOne (.literal n .exact) P) := by
  rintro _ ⟨⟩ _ ⟨c, after, rfl, hhas, -⟩
  exact ⟨c, rfl, (has_literal.mp hhas).symm⟩

theorem isPart_iff_partTest :
    IsPart cs ↔ 1 ≤ cs.length ∧ ∀ c ∈ cs, partTest.has c = true := by
  simp only [isPart_iff, has_partTest, ← List.length_pos_iff]
  rfl

/-- A part, an at sign, and two parts with a dot between them come first, and then the line ends. -/
def TakesLine : List Char → Prop :=
  TakesRun 1 partTest <| TakesOne (.literal 64 .exact) <| TakesRun 1 partTest <|
    TakesOne (.literal 46 .exact) <| TakesRun 1 partTest EndsLine

theorem means_lineNode : Means cs
    (fun place board => lineNode.run cs.toArray false none place board finish) TakesLine := by
  have htop := means_loop false partTest 1 (means_finalEnd false none cs) foresees_none
  have hdomain := means_loop false partTest 1
    (means_chars false none (.literal 46 .exact) htop) foresees_literal
  exact means_loop false partTest 1
    (means_chars false none (.literal 64 .exact) hdomain) foresees_literal

theorem takesLine_iff : TakesLine cs ↔ AddressLine cs := by
  constructor
  · rintro ⟨name, _, rfl, hname, hname', sign, _, rfl, hsign, domain, _, rfl, hdomain, hdomain',
      dot, _, rfl, hdot, top, _, rfl, htop, htop', hend⟩
    obtain rfl : sign = '@' := Char.toNat_inj.mp (has_literal.mp hsign).symm
    obtain rfl : dot = '.' := Char.toNat_inj.mp (has_literal.mp hdot).symm
    have haddress : Address (name ++ '@' :: (domain ++ '.' :: top)) :=
      ⟨name, domain, top, rfl, isPart_iff_partTest.mpr ⟨hname, hname'⟩,
        isPart_iff_partTest.mpr ⟨hdomain, hdomain'⟩, isPart_iff_partTest.mpr ⟨htop, htop'⟩⟩
    rcases hend with rfl | rfl
    · rw [List.append_nil]
      exact .inl haddress
    · exact .inr ⟨_, haddress, by simp⟩
  · have htakes {address rest : List Char} (h : Address address) (hrest : EndsLine rest) :
        TakesLine (address ++ rest) := by
      obtain ⟨name, domain, top, rfl, hname, hdomain, htop⟩ := h
      obtain ⟨hname, hname'⟩ := isPart_iff_partTest.mp hname
      obtain ⟨hdomain, hdomain'⟩ := isPart_iff_partTest.mp hdomain
      obtain ⟨htop, htop'⟩ := isPart_iff_partTest.mp htop
      exact ⟨name, '@' :: (domain ++ '.' :: (top ++ rest)), by simp, hname, hname', '@', _, rfl, rfl,
        domain, _, rfl, hdomain, hdomain', '.', _, rfl, rfl, top, rest, rfl, htop, htop', hrest⟩
    rintro (haddress | ⟨address, haddress, rfl⟩)
    · rw [← List.append_nil cs]
      exact htakes haddress (.inl rfl)
    · exact htakes haddress (.inr rfl)

theorem TakesLine.five_le_length (h : TakesLine cs) : 5 ≤ cs.length := by
  obtain ⟨name, _, rfl, hname, -, _, _, rfl, -, domain, _, rfl, hdomain, -, _, _, rfl, -, top, _,
    rfl, htop, -, -⟩ := h
  simp only [List.length_append, List.length_cons]
  omega

theorem tries_addressQuery (text : Array Char) : addressQuery.tries text 0 = true := rfl

/-- Only at the start of a text the pattern can match. -/
theorem isHit_run_addressQuery {s : String} {place : Nat} {board : Board} :
    (addressQuery.node.run s.toList.toArray false none place board finish).IsHit ↔
      place = 0 ∧ isAddress s = true := by
  rw [isAddress_iff, ← takesLine_iff]
  cases place with
  | zero =>
      refine (means_lineNode 0 board (Nat.zero_le _)).trans ?_
      rw [List.drop_zero]
      exact (and_iff_right rfl).symm
  | succ place => exact ⟨False.elim, fun h => nomatch h.1⟩

/-- The pattern of addresses is found in a text exactly if the text is taken for an address. -/
theorem isAddress_eq_foundIn :
    Query.ofText "^[^\\s@]+@[^\\s@]+\\.[^\\s@]+$" = .ok addressQuery ∧
      ∀ s, addressQuery.foundIn s = isAddress s := by
  refine ⟨by decide +kernel, fun s => ?_⟩
  rw [Bool.eq_iff_iff, Query.foundIn]
  simp only [Bool.and_eq_true, decide_eq_true_eq, List.any_eq_true, List.mem_range,
    List.size_toArray]
  constructor
  · rintro ⟨-, place, -, -, hhit⟩
    split at hhit
    · rename_i board hrun
      have hfound : Outcome.IsHit (.hit board) := trivial
      exact (isHit_run_addressQuery.mp (hrun ▸ hfound)).2
    · cases hhit
  · intro haddress
    have hline : TakesLine s.toList := takesLine_iff.mpr (isAddress_iff.mp haddress)
    refine ⟨hline.five_le_length, 0, Nat.succ_pos _, tries_addressQuery _, ?_⟩
    have hhit : (addressQuery.node.run s.toList.toArray false none 0 ⟨0, []⟩ finish).IsHit :=
      isHit_run_addressQuery.mpr ⟨rfl, haddress⟩
    split
    · rfl
    · rename_i hrun
      exact (hrun ▸ hhit : Outcome.IsHit (.miss _)).elim

/-- A rule that asks for an address always decides. -/
theorem fits_of_email {rule : Fields} (h : Fields.read rule "type" = .text "email")
    (content : String) : fits content (.object rule) = .ok (isAddress content) := by
  have hsome : (Value.object rule).truthy = true := by
    cases rule with
    | nil => cases h
    | cons => rfl
  rw [fits, hsome]
  simp only [Value.fieldsOf, bind, Except.bind, h]
  rfl

end Reply

namespace Conversation

variable {c : Conversation} {step : Step} {content : String}

/-- What a step keeps was accepted by its rule: a step that is carried out keeps no reply. -/
theorem fits_of_mem_writers {occasion : Occasion} (h : .reply step content ∈ c.writers occasion) :
    Reply.fits content (step.setting "validation") = .ok true := by
  rcases List.mem_append.mp (Variables.writing_subset _ _ h) with hkept | hsetter
  · obtain ⟨_, -, _, hreply, -, hfits⟩ := exists_of_mem_kept hkept
    cases hreply
    exact hfits
  · obtain ⟨_, -, hreply⟩ := List.mem_map.mp hsetter
    cases hreply

theorem fits_of_mem_allWriters {occasions : List Occasion}
    (h : .reply step content ∈ c.allWriters occasions) :
    Reply.fits content (step.setting "validation") = .ok true := by
  induction occasions generalizing c with
  | nil => cases h
  | cons occasion rest ih => exact (List.mem_append.mp h).elim fits_of_mem_writers ih

/-- A rule that asks for an address decides on every text, and it accepts exactly the addresses and
the addresses with a line end after them, so only on the latter it is wrong. Whatever is asked of a
conversation, its variables are what the steps that set one and the replies that are kept made of
them. A reply that is kept by a step with this rule is one of these texts, and there is a blank in it
only if a line end is after the address. -/
theorem addresses_kept {rule : Fields} (hrule : Fields.read rule "type" = .text "email") :
    (∀ content, ∃ accepted, Reply.fits content (.object rule) = .ok accepted ∧
      (accepted = true ↔ Reply.AddressLine content.toList) ∧
      ((accepted = true ↔ Reply.Address content.toList) ↔ ¬ Reply.EndedAddress content.toList)) ∧
    ∀ (graph : Graph) (id routine : String) (bindings : Variables) (occasions : List Occasion),
      let made : Conversation := { graph, id, routine, bindings }
      bindings.replay (made.allWriters occasions) = .ok (made.meetAll occasions).1.bindings ∧
      ∀ step content, .reply step content ∈ made.allWriters occasions →
        step.setting "validation" = .object rule →
        Reply.AddressLine content.toList ∧
        ((∃ c ∈ content.toList, Text.isBlank c = true) ↔ Reply.EndedAddress content.toList) := by
  refine ⟨fun content => ?decides, fun graph id routine bindings occasions => ?run⟩
  case decides =>
    refine ⟨_, Reply.fits_of_email hrule content, Reply.isAddress_iff, ?_⟩
    rw [Reply.isAddress_iff]
    exact Reply.addressLine_iff_address_iff
  case run =>
    intro made
    have hplaced : made.Placed := placed_of_idle rfl
    refine ⟨replay_meetAll hplaced occasions, fun step content hkept hsetting => ?_⟩
    have hfits := fits_of_mem_allWriters hkept
    rw [hsetting, Reply.fits_of_email hrule] at hfits
    have hline : Reply.AddressLine content.toList := Reply.isAddress_iff.mp (Except.ok.inj hfits)
    exact ⟨hline, hline.exists_blank_iff⟩

/-- A name is typed first and refused, and then an address is typed and kept. -/
theorem addresses_kept_at_second_try :
    let rule : Fields := [("type", .text "email")]
    let ask : Step :=
      { id := "ask", type := "wait_input"
        config := [("validation", .object rule), ("store_as", .text "mail")] }
    let d : Definition :=
      { steps := [{ id := "t", type := "trigger" }, ask], edges := [{ source := "t", target := "ask" }] }
    let graph : Graph := ⟨{}, d, by decide +kernel⟩
    let made : Conversation := { graph, id := "run", routine := "" }
    let occasions : List Occasion :=
      [.start, .resume (.text "Ada"), .resume (.text "ada@post.example.org")].map fun request =>
        ⟨request, .absent, fun _ => .ok ()⟩
    Fields.read rule "type" = .text "email" ∧
      made.allWriters occasions = [.reply ask "ada@post.example.org"] ∧
      Reply.AddressLine "ada@post.example.org".toList ∧ ¬ Reply.AddressLine "Ada".toList := by
  intro rule ask d graph made occasions
  have hrule : Fields.read rule "type" = .text "email" := by decide
  have hkept : made.allWriters occasions = [.reply ask "ada@post.example.org"] := by decide +kernel
  obtain ⟨hdecides, hrun⟩ := addresses_kept hrule
  obtain ⟨-, hwritten⟩ := hrun graph "run" "" { } occasions
  obtain ⟨hline, -⟩ := hwritten ask _ (hkept ▸ List.mem_cons_self) (by decide)
  refine ⟨hrule, hkept, hline, fun hname => ?_⟩
  obtain ⟨accepted, hfits, hiff, -⟩ := hdecides "Ada"
  rw [hiff.mpr hname] at hfits
  exact absurd hfits (by decide +kernel)

/-- An address with a line end after it is no address, but it is accepted and kept as it is. -/
theorem line_end_kept :
    let rule : Fields := [("type", .text "email")]
    let ask : Step :=
      { id := "ask", type := "wait_input"
        config := [("validation", .object rule), ("store_as", .text "mail")] }
    let d : Definition :=
      { steps := [{ id := "t", type := "trigger" }, ask], edges := [{ source := "t", target := "ask" }] }
    let graph : Graph := ⟨{}, d, by decide +kernel⟩
    let made : Conversation := { graph, id := "run", routine := "" }
    let occasions : List Occasion := [.start, .resume (.text "a@b.c\n")].map fun request =>
      ⟨request, .absent, fun _ => .ok ()⟩
    ¬ Reply.Address "a@b.c\n".toList ∧ Reply.fits "a@b.c\n" (.object rule) = .ok true ∧
      (made.meetAll occasions).1.bindings.get? (.text "mail") = some (.text "a@b.c\n") := by
  intro rule ask d graph made occasions
  refine ⟨fun h => ?_, by decide +kernel, by decide +kernel⟩
  have hblank : Text.isBlank '\n' = false := h.not_blank (by decide)
  exact absurd hblank (by decide)

end Conversation

end Workflow
