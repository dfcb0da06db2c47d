import Tabula.Proofs.Statement.Columns
import Tabula.Proofs.Statement.Opening
import Tabula.Proofs.Token.Passage

/-!
The kind of a command, told twice: from its first letters and from its first tokens.

Both agree: where the first tokens are the keywords of a kind the text has that kind, and what is
read has the kind of the text. What is not read is refused, unless a number in it has too many
digits.
-/

namespace Tabula

open Text

namespace Token

variable {position finish : Nat} {cs tail rest : List Char} {placed : List Placed} {word : String}

/-- A word that begins a text is not continued. -/
lemma Begins.stops (h : Begins cs (.word word) tail) : ∀ c ∈ tail.head?, isWordChar c = false := by
  intro c hc
  obtain ⟨tail, rfl⟩ : ∃ rest, tail = c :: rest := List.head?_eq_some_iff.1 hc
  rw [← Bool.not_eq_true]
  intro hword
  obtain ⟨d, ds, htext, hd, hds⟩ := h.spelled
  have hlonger : Shape.word.Has (word.toList ++ [c]) := by
    refine ⟨d, ds ++ [c], ?_, hd, List.forall_mem_append.2 ⟨hds, by simpa using hword⟩⟩
    rw [String.toList_ofList, htext, List.cons_append]
  have hp : word.toList ++ [c] <+: cs := ⟨tail, by
    rw [List.append_assoc, List.singleton_append]
    exact h.append⟩
  have hlength := h.longest _ hlonger hp
  rw [List.length_append, List.length_singleton, text] at hlength
  omega

end Token

namespace Keyword

/-- A word whose upper case is a keyword without ligatures has the letters of the keyword. -/
lemma matches_of_spelledBy {k : Keyword} {word : String} (ha : apart k.text.toList = true)
    (h : k.spelledBy word = true) : k.Matches word := by
  rw [spelledBy, beq_iff_eq] at h
  rw [Matches, ← h]
  exact matches_capitals (h ▸ ha)

end Keyword

namespace Kind

open Token (Passes)

variable {position finish : Nat} {cs rest : List Char} {placed : List Placed} {ks : List Keyword}

/-- The first tokens are the keywords, by their upper case. -/
def Led (ks : List Keyword) (placed : List Placed) : Prop :=
  List.Forall₂ (fun k p => p.token.isKeyword k = true) ks (placed.take ks.length)

lemma apart_opening (kind : Kind) : ∀ k ∈ kind.opening, apart k.text.toList = true := by
  cases kind <;> decide

lemma starts_of_passes (h : Passes position cs placed finish rest) (hks : ks ≠ [])
    (ha : ∀ k ∈ ks, apart k.text.toList = true) (hled : Led ks placed) :
    ∃ gap us, cs = gap ++ us ∧ (∀ c ∈ gap, isBlank c = true) ∧ Starts ks us := by
  induction h generalizing ks with
  | here =>
    cases ks with
    | nil => exact absurd rfl hks
    | cons => cases hled
  | @blank _ _ c _ _ _ hc _ ih =>
    obtain ⟨gap, us, rfl, hblank, hstarts⟩ := ih hks ha hled
    exact ⟨c :: gap, us, rfl, List.forall_mem_cons.2 ⟨hc, hblank⟩, hstarts⟩
  | @token _ _ cs tail _ t _ ht _ ih =>
    obtain ⟨k, ks, rfl⟩ := List.exists_cons_of_ne_nil hks
    obtain ⟨hk, hks⟩ := List.forall_mem_cons.1 ha
    obtain ⟨hkeyword, hlater⟩ := List.forall₂_cons.1 hled
    refine ⟨[], cs, rfl, List.forall_mem_nil _, ?_⟩
    cases t with
    | word word =>
      have hmatch := k.matches_of_spelledBy hk hkeyword
      rw [← ht.append]
      cases ks with
      | nil => exact .last hmatch ht.stops
      | cons k' ks =>
        obtain ⟨gap, us, rfl, hblank, hstarts⟩ := ih (List.cons_ne_nil _ _) hks hlater
        refine .more hmatch ?_ hblank hstarts
        -- two words side by side would be one
        rintro rfl
        obtain ⟨c, us, rfl, hc⟩ := hstarts.head
        rw [ht.stops c rfl] at hc
        cases hc
    | _ => cases hkeyword

/-- **The first tokens tell the kind.** -/
theorem ofCommand_of_led {command : String} {kind : Kind}
    (hscan : Token.scan (trimmed command) = .ok placed) (hled : Led kind.opening placed) :
    ofCommand command = .ok kind := by
  obtain ⟨finish, hpasses⟩ := Token.scanFrom_eq_ok.1 hscan
  rw [trimmed, String.toList_ofList] at hpasses
  obtain ⟨gap, us, htext, hblank, hstarts⟩ :=
    starts_of_passes hpasses (by cases kind <;> simp [opening]) kind.apart_opening hled
  obtain rfl : gap = [] := by
    cases gap with
    | nil => rfl
    | cons c gap =>
      have hhead := trim_head command.toList c (by rw [htext]; rfl)
      rw [hblank c List.mem_cons_self] at hhead
      cases hhead
  rw [ofCommand, htext, List.nil_append, ofText?_of_starts hstarts]

end Kind

namespace Statement

open Token (Passes)

/-! ### Rounds without a bound -/

section Rounds

variable {α : Type} {item : Reader α} {part : List Token → α → Prop} {r r' : Reader (List α)}
  {rounds : Nat} {ts : List Token}

/-- One item, and after a comma others. -/
def round (item : Reader α) (others : Reader (List α)) : Reader (List α) := do
  let a ← item
  if ← symbol? .comma then return a :: (← others) else return [a]

lemma round_apply (item : Reader α) (others : Reader (List α)) (ts : List Token) :
    round item others ts = item ts >>= fun (a, mid) =>
      match mid with
      | .symbol .comma :: more => (fun (as, rest) => (a :: as, rest)) <$> others more
      | mid => .ok ([a], mid) := by
  change (item ts >>= fun p => (symbol? .comma p.2 >>= fun q =>
    (if q.1 then do return p.1 :: (← others) else return [p.1] : Reader (List α)) q.2)) = _
  congr 1
  funext ⟨a, mid⟩
  cases mid with
  | nil => rfl
  | cons t more =>
    by_cases ht : t = .symbol .comma
    · subst ht
      rfl
    · have hsymbol : symbol? .comma (t :: more) = .ok (false, t :: more) := if_neg ht
      dsimp only
      rw [hsymbol]
      split
      · rename_i heq
        exact absurd (List.cons.inj heq).1 ht
      · rfl

/-- After an item and a comma fewer tokens are left. -/
lemma round_congr (h : Accepts item part)
    (hr : ∀ more : List Token, more.length < ts.length → r more = r' more) :
    round item r ts = round item r' ts := by
  rw [round_apply, round_apply]
  cases hitem : item ts with
  | error fault => rfl
  | ok found =>
    obtain ⟨a, mid⟩ := found
    obtain ⟨used, rfl, -⟩ := h _ _ _ hitem
    dsimp only [bind, Except.bind]
    split
    · rw [hr _ (by simp; omega)]
    · rfl

/-- Without tokens there is no comma. -/
lemma loop_nil (h : Accepts item part) : separated.loop item 0 [] = round item r [] := by
  rw [round_apply]
  change (item [] >>= fun p => Except.ok ([p.1], p.2)) = _
  cases hitem : item [] with
  | error fault => rfl
  | ok found =>
    obtain ⟨a, mid⟩ := found
    obtain ⟨used, hnil, -⟩ := h _ _ _ hitem
    obtain ⟨-, rfl⟩ := List.append_eq_nil_iff.1 hnil.symm
    rfl

/-- Where the tokens are no more than the rounds that are left there may be one round more. -/
lemma loop_succ (h : Accepts item part) (hle : ts.length ≤ rounds) :
    separated.loop item rounds ts = separated.loop item (rounds + 1) ts := by
  induction rounds generalizing ts with
  | zero =>
    obtain rfl := List.length_eq_zero_iff.1 (Nat.le_zero.1 hle)
    exact loop_nil h
  | succ rounds ih => exact round_congr h fun more hmore => ih (by omega)

lemma loop_eq_separated (h : Accepts item part) (hle : ts.length ≤ rounds) :
    separated.loop item rounds ts = separated item ts := by
  induction rounds, hle using Nat.le_induction with
  | base => rfl
  | succ rounds hle ih => rw [← loop_succ h hle, ih]

/-- **No list ends because the rounds are over.** -/
theorem separated_eq_round (h : Accepts item part) :
    separated item = round item (separated item) := by
  funext ts
  rw [← loop_eq_separated h (Nat.le_succ ts.length)]
  exact round_congr h fun more hmore => loop_eq_separated h hmore.le

end Rounds

/-! ### What comes of a command -/

variable {command : String} {kind : Kind}

/-- The number of digits of a whole numeral that is a token of a text, or would be. -/
def HasNumeral (cs : List Char) (count : Nat) : Prop :=
  ∃ placed position w rest, Passes 0 cs placed position (w ++ rest) ∧
    Numeral.IsWholeNumeral w count ∧
    ∀ v, Numeral.IsNumeral v → v <+: w ++ rest → v.length ≤ w.length

lemma hasNumeral_of_scan {s : String} {fault : NumberFault} {position : Nat}
    (h : Token.scan s = .error ⟨.number fault, position⟩) :
    ∃ count, HasNumeral s.toList count ∧ digitLimit < count ∧ fault = .tooManyDigits count := by
  obtain ⟨placed, c, tail, hpasses, -, hread⟩ := Token.scanFrom_eq_error.1 h
  obtain ⟨w, count, hw, ⟨rest, hrest⟩, hlongest, hlong, rfl⟩ := Token.fits_of_readToken hread
  rw [← hrest] at hpasses hlongest
  exact ⟨count, ⟨placed, position, w, rest, hpasses, hw, hlongest⟩, hlong, rfl⟩

/-- What comes of a command of a known kind. -/
inductive Outcome (command : String) (kind : Kind) : Except Failure Statement → Prop
  | read {s : Statement} (hs : s.kind = kind) : Outcome command kind (.ok s)
  | invalid (fault : StatementFault) : Outcome command kind (.error (.invalid kind fault))
  | number {count : Nat} (hcount : HasNumeral (trimmed command).toList count)
    (hlong : digitLimit < count) : Outcome command kind (.error (.number (.tooManyDigits count)))

lemma outcome_parse (h : Kind.ofCommand command = .ok kind) :
    Outcome command kind (parse command) := by
  unfold parse
  rw [h]
  dsimp only [bind, Except.bind]
  split
  · rename_i fault position hscan
    obtain ⟨count, hnumeral, hlong, rfl⟩ := hasNumeral_of_scan hscan
    exact .number hnumeral hlong
  · exact .invalid _
  · rename_i placed hscan
    cases hread : ofTokens kind (placed.map (·.token)) with
    | error fault => exact .invalid fault
    | ok s =>
      obtain ⟨rest, hread, -⟩ := ofTokens_eq_ok_iff.1 hread
      exact .read (returns_read kind _ _ _ hread)

/-- **Every command has an outcome, and both ways to tell its kind agree.** A command that has a
kind is a statement of this kind or refused as one, and only a number of too many digits is a fault
of another kind. If the first tokens are the keywords of a kind, this is the kind of the command. No
list in it is cut short by the bound on its rounds. -/
theorem kinds_agree (command : String) :
    (match Kind.ofCommand command with
      | .ok kind => Outcome command kind (parse command)
      | .error f => f = .unknownCommand (trimmed command) ∧ parse command = .error f) ∧
    (∀ kind placed, Token.scan (trimmed command) = .ok placed → Kind.Led kind.opening placed →
      Kind.ofCommand command = .ok kind) ∧
    separated columnDeclaration = round columnDeclaration (separated columnDeclaration) ∧
    separated (name .column) = round (name .column) (separated (name .column)) ∧
    separated columnName = round columnName (separated columnName) ∧
    separated literal = round literal (separated literal) ∧
    separated assignment = round assignment (separated assignment) := by
  refine ⟨?_, fun kind placed => Kind.ofCommand_of_led,
    separated_eq_round accepts_columnDeclaration, separated_eq_round (accepts_name .column),
    separated_eq_round accepts_columnName, separated_eq_round accepts_literal,
    separated_eq_round accepts_assignment⟩
  cases hkind : Kind.ofCommand command with
  | ok kind => exact outcome_parse hkind
  | error f =>
    refine ⟨?_, by rw [parse, hkind]; rfl⟩
    unfold Kind.ofCommand at hkind
    split at hkind
    · cases hkind
    · exact (Except.error.inj hkind).symm

end Statement

end Tabula
