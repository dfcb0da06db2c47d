import Mathlib.Data.List.Forall2
import Tabula.Console
import Tabula.Proofs.Session.History

/-!
What the lines of a dialogue come to.

`Segments` cuts lines into commands and requests, without a session. A dialogue over these lines
shows and does what the commands and requests do one after the other, whatever they are answered:
no failure loses or repeats a command.
-/

namespace Tabula

open Text (trimmed trim)

namespace Console

/-! ### Lines -/

/-- A word, each of whose letters is in one case or the other. -/
def Spells (word text : String) : Prop :=
  List.Forall₂ (fun w c => c = w ∨ c = w.toUpper) word.toList text.toList

def Request.words : Request → List String
  | .leave => ["exit", "quit"]
  | .help => ["help"]
  | .tables => ["tables", ".tables"]

def Request.Asked (r : Request) (text : String) : Prop := ∃ word ∈ r.words, Spells word text

/-- The text of a command is complete. -/
def Complete (text : String) : Prop := [';'] <:+ text.toList

instance (text : String) : Decidable (Complete text) := by unfold Complete; infer_instance

/-- What becomes of a command of which some text is there: the lines after it are added to the text
until it is complete or a blank line comes, and what is left are the lines after these. There is no
command if the lines come to an end before. -/
inductive Gathers : String → List String → Option String → List String → Prop
  | complete {text : String} (lines : List String) (h : Complete text) :
    Gathers text lines (some text) lines
  | blank {text l : String} (lines : List String) (h : ¬ Complete text) (hl : trimmed l = "") :
    Gathers text (l :: lines) (some text) lines
  | more {text l : String} {lines rest : List String} {command : Option String}
    (h : ¬ Complete text) (hl : trimmed l ≠ "")
    (hmore : Gathers (text ++ " " ++ trimmed l) lines command rest) :
    Gathers text (l :: lines) command rest
  | dropped {text : String} (h : ¬ Complete text) : Gathers text [] none []

/-- What a part of the lines is. -/
inductive Item where
  | command (text : String)
  | help
  | tables

def Item.command? : Item → Option String
  | command text => some text
  | help | tables => none

/-- A dialogue is left, or it comes to the end of the input. -/
inductive Ending where
  | left
  | exhausted

/-- Lines, cut into commands and requests. A request is only one where a command could start. -/
inductive Segments : List String → List Item → Ending → Prop
  | nil : Segments [] [] .exhausted
  | leave {l : String} (lines : List String) (h : Request.leave.Asked (trimmed l)) :
    Segments (l :: lines) [] .left
  | help {l : String} {lines : List String} {items : List Item} {ending : Ending}
    (h : Request.help.Asked (trimmed l)) (hrest : Segments lines items ending) :
    Segments (l :: lines) (.help :: items) ending
  | tables {l : String} {lines : List String} {items : List Item} {ending : Ending}
    (h : Request.tables.Asked (trimmed l)) (hrest : Segments lines items ending) :
    Segments (l :: lines) (.tables :: items) ending
  | blank {l : String} {lines : List String} {items : List Item} {ending : Ending}
    (h : trimmed l = "") (hrest : Segments lines items ending) :
    Segments (l :: lines) items ending
  | command {l text : String} {lines rest : List String} {items : List Item} {ending : Ending}
    (h : ∀ r : Request, ¬ r.Asked (trimmed l)) (hl : trimmed l ≠ "")
    (hcommand : Gathers (trimmed l) lines (some text) rest) (hrest : Segments rest items ending) :
    Segments (l :: lines) (.command text :: items) ending
  | dropped {l : String} {lines rest : List String} (h : ∀ r : Request, ¬ r.Asked (trimmed l))
    (hl : trimmed l ≠ "") (hcommand : Gathers (trimmed l) lines none rest) :
    Segments (l :: lines) [] .exhausted

end Console

/-! ### Turns -/

/-- A turn, and one that follows it, as one turn. -/
def Turn.andThen (t : Turn) (next : Console → Turn) : Turn :=
  let u := next t.console
  ⟨u.console, t.shown ++ u.shown, t.notices ++ u.notices⟩

lemma Turn.andThen_assoc (t : Turn) (f g : Console → Turn) :
    (t.andThen f).andThen g = t.andThen fun c => (f c).andThen g := by
  simp [andThen, String.append_assoc]

lemma Turn.andThen_congr {t : Turn} {f g : Console → Turn} (h : f t.console = g t.console) :
    t.andThen f = t.andThen g := by
  rw [andThen, andThen, h]

namespace Console

/-- A turn without anything to show. -/
def quiet (c : Console) : Turn := ⟨c, "", []⟩

@[simp] lemma quiet_andThen (c : Console) (f : Console → Turn) : c.quiet.andThen f = f c := by
  simp [Turn.andThen, quiet]

@[simp] lemma andThen_quiet (t : Turn) : t.andThen quiet = t := by
  simp [Turn.andThen, quiet]

/-- What is done about a part of the lines. -/
def perform (c : Console) : Item → Turn
  | .command text => c.run text
  | .help => ⟨c, line help, []⟩
  | .tables => ⟨c, tablesText c.session.database, []⟩

def performAll (c : Console) : List Item → Turn
  | [] => c.quiet
  | item :: items => (c.perform item).andThen (·.performAll items)

/-- What a console shows as the dialogue ends. -/
def Ending.text : Ending → String
  | left => ""
  | exhausted => line ""

def finish (c : Console) (ending : Ending) : Turn := ⟨{ c with phase := .nothing }, ending.text, []⟩

/-- A whole dialogue as one turn. -/
def hear (c : Console) (lines : List String) : Turn :=
  let d := c.talk (lines.map .line)
  ⟨d.console, d.shown, d.notices⟩

variable {c : Console} {text l : String} {lines rest : List String}

lemma hear_nothing (h : c.phase = .nothing) (lines : List String) : c.hear lines = c.quiet := by
  unfold hear talk
  rw [h]
  rfl

lemma hear_nil (h : c.phase ≠ .nothing) : c.hear [] = c.finish .exhausted := by
  unfold hear talk
  cases hp : c.phase with
  | nothing => exact absurd hp h
  | command | more _ => simp [Phase.prompt?, take, finish, Ending.text]

lemma hear_cons (h : c.phase ≠ .nothing) (l : String) (lines : List String) :
    c.hear (l :: lines) = (c.takeLine l).andThen (·.hear lines) := by
  unfold hear
  rw [List.map_cons, talk]
  cases hp : c.phase with
  | nothing => exact absurd hp h
  | command | more _ => rfl

/-! ### Requests -/

/-- Every character is its lower case, or the upper case of it. -/
lemma eq_or_eq_toUpper_toLower (c : Char) : c = c.toLower ∨ c = c.toLower.toUpper := by
  by_cases hc : c.val ≥ 'A'.val ∧ c.val ≤ 'Z'.val
  · have hletters : ∀ n < 91, 65 ≤ n → Char.ofNat n = (Char.ofNat n).toLower.toUpper := by decide
    have hletter := hletters c.toNat (Nat.lt_succ_of_le (UInt32.le_iff_toNat_le.1 hc.2))
      (UInt32.le_iff_toNat_le.1 hc.1)
    rw [Char.ofNat_toNat] at hletter
    exact .inr hletter
  · rw [show c.toLower = c from dif_neg hc]
    exact .inl rfl

lemma spells_iff {word : String} (hw : ∀ w ∈ word.toList, w.toLower = w ∧ w.toUpper.toLower = w) :
    Spells word text ↔ text.toList.map Char.toLower = word.toList := by
  rw [Spells, eq_comm (a := text.toList.map Char.toLower)]
  generalize word.toList = ws at hw
  generalize text.toList = cs
  induction ws generalizing cs with
  | nil => cases cs <;> simp
  | cons w ws ih =>
    obtain ⟨⟨hlower, hupper⟩, hws⟩ := List.forall_mem_cons.1 hw
    cases cs with
    | nil => simp
    | cons c cs =>
      rw [List.forall₂_cons, List.map_cons, List.cons.injEq, ih hws]
      refine and_congr_left fun _ => ⟨?_, ?_⟩
      · rintro (rfl | rfl)
        · exact hlower.symm
        · exact hupper.symm
      · rintro rfl
        exact eq_or_eq_toUpper_toLower c

/-- What a line asks for, in whatever case. -/
lemma request?_eq_some {r : Request} : request? text.toList = some r ↔ r.Asked text := by
  have hwords : ∀ word ∈ r.words, ∀ w ∈ word.toList, w.toLower = w ∧ w.toUpper.toLower = w := by
    cases r <;> simp [Request.words]
  have hasked : r.Asked text ↔ String.ofList (text.toList.map Char.toLower) ∈ r.words := by
    unfold Request.Asked
    constructor
    · rintro ⟨word, hword, hspells⟩
      rwa [(spells_iff (hwords word hword)).1 hspells, String.ofList_toList]
    · exact fun hm => ⟨_, hm, (spells_iff (hwords _ hm)).2 (String.toList_ofList).symm⟩
  rw [hasked, request?]
  clear hasked
  generalize String.ofList (text.toList.map Char.toLower) = word
  split
  · cases r <;> simp [Request.words]
  · cases r <;> simp [Request.words]
  · cases r <;> simp [Request.words]
  · cases r <;> simp [Request.words]
  · cases r <;> simp [Request.words]
  · cases r <;> simp_all [Request.words]

/-- A line asks for one thing at most. -/
lemma Request.Asked.unique {r q : Request} (hr : r.Asked text) (hq : q.Asked text) : r = q :=
  Option.some.inj ((request?_eq_some.2 hr).symm.trans (request?_eq_some.2 hq))

lemma request?_eq_none : request? text.toList = none ↔ ∀ r : Request, ¬ r.Asked text := by
  simp only [← request?_eq_some, Option.eq_none_iff_forall_ne_some]

/-- An empty line asks for nothing. -/
lemma not_asked_empty (r : Request) : ¬ r.Asked "" := request?_eq_none.1 rfl r

/-! ### Dialogues -/

lemma isComplete_iff : isComplete text.toList = true ↔ Complete text := by
  rw [isComplete, decide_eq_true_iff, List.getLast?_eq_some_iff, Complete, List.IsSuffix]
  exact exists_congr fun _ => eq_comm

lemma extend_complete (c : Console) (h : Complete text) : c.extend text.toList = c.run text := by
  rw [extend, if_pos (isComplete_iff.2 h), String.ofList_toList]

/-- A console that waits for the rest of a command. -/
def waiting (c : Console) (text : String) : Console := { c with phase := .more text }

lemma waiting_phase (c : Console) (text : String) : (c.waiting text).phase ≠ .nothing := by
  simp [waiting]

/-- How a command goes on does not depend on what was waited for. -/
lemma extend_waiting (c : Console) (text : String) (command : List Char) :
    (c.waiting text).extend command = c.extend command := by
  unfold extend
  rfl

lemma extend_incomplete (c : Console) (h : ¬ Complete text) :
    c.extend text.toList = quiet (c.waiting text) := by
  rw [extend, if_neg (mt isComplete_iff.1 h), String.ofList_toList, quiet, waiting]

lemma toList_trimmed (l : String) : (trimmed l).toList = trim l.toList := String.toList_ofList

lemma trim_eq_nil : trim l.toList = [] ↔ trimmed l = "" := by
  rw [← toList_trimmed, String.toList_eq_nil_iff]

/-- What is done about a request. -/
def turnTo (c : Console) : Request → Turn
  | .leave => quiet { c with phase := .nothing }
  | .help => c.perform .help
  | .tables => c.perform .tables

section Lines

lemma takeLine_waiting_blank (c : Console) (text : String) (hl : trimmed l = "") :
    (c.waiting text).takeLine l = c.run text := by
  rw [takeLine, waiting]
  dsimp only
  rw [if_pos (trim_eq_nil.2 hl)]
  rfl

lemma takeLine_waiting (c : Console) (text : String) (hl : trimmed l ≠ "") :
    (c.waiting text).takeLine l = c.extend (text ++ " " ++ trimmed l).toList := by
  have htext : (text ++ " " ++ trimmed l).toList = text.toList ++ ' ' :: trim l.toList := by
    simp [toList_trimmed]
  rw [htext, ← extend_waiting c text, takeLine, waiting]
  dsimp only
  rw [if_neg (mt trim_eq_nil.1 hl)]

variable (hc : c.phase = .command)
include hc

/-- A request is done. -/
lemma takeLine_request {r : Request} (h : r.Asked (trimmed l)) :
    c.takeLine l = c.turnTo r := by
  rw [takeLine, hc, ← toList_trimmed]
  dsimp only
  rw [request?_eq_some.2 h]
  cases r <;> rfl

lemma takeLine_blank (h : trimmed l = "") : c.takeLine l = c.quiet := by
  have hnone : request? (trimmed l).toList = none := request?_eq_none.2 (h ▸ not_asked_empty)
  rw [takeLine, hc, ← toList_trimmed]
  dsimp only
  rw [hnone]
  dsimp only
  rw [if_pos (String.toList_eq_nil_iff.2 h), quiet]

lemma takeLine_command (h : ∀ r : Request, ¬ r.Asked (trimmed l)) (hl : trimmed l ≠ "") :
    c.takeLine l = c.extend (trimmed l).toList := by
  rw [takeLine, hc, ← toList_trimmed]
  dsimp only
  rw [request?_eq_none.2 h]
  dsimp only
  rw [if_neg (mt String.toList_eq_nil_iff.1 hl)]

end Lines

/-- How a dialogue goes on once a command has been gathered, or has been dropped. -/
def resume (c : Console) (rest : List String) : Option String → Turn
  | some text => (c.run text).andThen (·.hear rest)
  | none => c.finish .exhausted

/-- A command that is gathered is run, and the dialogue goes on with the lines that are left. -/
lemma hear_gathers {command : Option String} (h : Gathers text lines command rest) (c : Console) :
    (c.extend text.toList).andThen (·.hear lines) = c.resume rest command := by
  induction h with
  | complete lines h => rw [extend_complete c h, resume]
  | blank lines h hl =>
    rw [extend_incomplete c h, quiet_andThen, hear_cons (waiting_phase c _),
      takeLine_waiting_blank c _ hl, resume]
  | more h hl _ ih =>
    rw [extend_incomplete c h, quiet_andThen, hear_cons (waiting_phase c _),
      takeLine_waiting c _ hl, ih]
  | dropped h =>
    rw [extend_incomplete c h, quiet_andThen, hear_nil (waiting_phase c _)]
    rfl

/-- **A dialogue does what its lines come to.** -/
theorem hear_segments {items : List Item} {ending : Ending} (h : Segments lines items ending)
    (hc : c.phase = .command) : c.hear lines = (c.performAll items).andThen (·.finish ending) := by
  have hne : ∀ {c : Console}, c.phase = .command → c.phase ≠ .nothing := by
    intro c hc
    simp [hc]
  induction h generalizing c with
  | nil => rw [hear_nil (hne hc), performAll, quiet_andThen]
  | leave lines hl =>
    rw [hear_cons (hne hc), takeLine_request hc hl, turnTo, quiet_andThen, hear_nothing rfl, performAll,
      quiet_andThen]
    rfl
  | help hl _ ih =>
    rw [hear_cons (hne hc), takeLine_request hc hl, turnTo, performAll, Turn.andThen_assoc]
    exact Turn.andThen_congr (ih hc)
  | tables hl _ ih =>
    rw [hear_cons (hne hc), takeLine_request hc hl, turnTo, performAll, Turn.andThen_assoc]
    exact Turn.andThen_congr (ih hc)
  | blank hl _ ih => rw [hear_cons (hne hc), takeLine_blank hc hl, quiet_andThen, ih hc]
  | command hr hl hg _ ih =>
    rw [hear_cons (hne hc), takeLine_command hc hr hl, hear_gathers hg, resume, performAll,
      Turn.andThen_assoc]
    exact Turn.andThen_congr (ih rfl)
  | dropped hr hl hg =>
    rw [hear_cons (hne hc), takeLine_command hc hr hl, hear_gathers hg, resume, performAll,
      quiet_andThen]

/-! ### One way to cut the lines -/

lemma exists_gathers (text : String) (lines : List String) :
    ∃ command rest, Gathers text lines command rest ∧ rest.length ≤ lines.length := by
  by_cases h : Complete text
  · exact ⟨_, lines, .complete lines h, Nat.le_refl _⟩
  · induction lines generalizing text with
    | nil => exact ⟨_, [], .dropped h, Nat.le_refl _⟩
    | cons l lines ih =>
      by_cases hl : trimmed l = ""
      · exact ⟨_, lines, .blank lines h hl, by simp⟩
      · by_cases hmore : Complete (text ++ " " ++ trimmed l)
        · exact ⟨_, lines, .more h hl (.complete lines hmore), by simp⟩
        · obtain ⟨command, rest, hg, hlength⟩ := ih _ hmore
          exact ⟨command, rest, .more h hl hg, by simp; omega⟩

lemma Gathers.unique {a b : Option String} {rest last : List String}
    (ha : Gathers text lines a rest) (hb : Gathers text lines b last) : a = b ∧ rest = last := by
  induction ha with
  | complete lines h =>
    cases hb with
    | complete => exact ⟨rfl, rfl⟩
    | blank _ hnot | more hnot | dropped hnot => exact absurd h hnot
  | blank lines h hl =>
    cases hb with
    | complete _ hc => exact absurd hc h
    | blank => exact ⟨rfl, rfl⟩
    | more _ hne => exact absurd hl hne
  | more h hl _ ih =>
    cases hb with
    | complete _ hc => exact absurd hc h
    | blank _ _ hempty => exact absurd hempty hl
    | more _ _ hmore => exact ih hmore
  | dropped h =>
    cases hb with
    | complete _ hc => exact absurd hc h
    | dropped => exact ⟨rfl, rfl⟩

/-- Lines can be cut. -/
lemma exists_segments (lines : List String) : ∃ items ending, Segments lines items ending := by
  induction hn : lines.length using Nat.strongRecOn generalizing lines with
  | ind n ih =>
    subst hn
    cases lines with
    | nil => exact ⟨[], _, .nil⟩
    | cons l lines =>
      obtain ⟨items, ending, hrest⟩ := ih lines.length (by simp) lines rfl
      by_cases hl : trimmed l = ""
      · exact ⟨items, ending, .blank hl hrest⟩
      · by_cases hr : ∃ r : Request, r.Asked (trimmed l)
        · obtain ⟨r, hr⟩ := hr
          cases r with
          | leave => exact ⟨[], _, .leave lines hr⟩
          | help => exact ⟨_, ending, .help hr hrest⟩
          | tables => exact ⟨_, ending, .tables hr hrest⟩
        · -- the lines after a command are fewer
          obtain ⟨command, rest, hg, hlength⟩ := exists_gathers (trimmed l) lines
          cases command with
          | none => exact ⟨[], _, .dropped (not_exists.1 hr) hl hg⟩
          | some text =>
            obtain ⟨more, last, hmore⟩ := ih rest.length (by simp; omega) rest rfl
            exact ⟨_, last, .command (not_exists.1 hr) hl hg hmore⟩

/-- Lines can be cut in one way only. -/
lemma Segments.unique {items parts : List Item} {ending last : Ending}
    (h : Segments lines items ending) (k : Segments lines parts last) :
    items = parts ∧ ending = last := by
  have hempty : ∀ {l : String} {r : Request}, trimmed l = "" → ¬ r.Asked (trimmed l) := by
    intro l r hl
    rw [hl]
    exact not_asked_empty r
  induction h generalizing parts last with
  | nil =>
    cases k
    exact ⟨rfl, rfl⟩
  | leave lines hl =>
    cases k with
    | leave => exact ⟨rfl, rfl⟩
    | help hk | tables hk => cases hl.unique hk
    | blank hk => exact absurd hl (hempty hk)
    | command hk | dropped hk => exact absurd hl (hk _)
  | help hl _ ih =>
    cases k with
    | help _ hrest => exact (ih hrest).imp_left (congrArg _)
    | leave _ hk | tables hk => cases hl.unique hk
    | blank hk => exact absurd hl (hempty hk)
    | command hk | dropped hk => exact absurd hl (hk _)
  | tables hl _ ih =>
    cases k with
    | tables _ hrest => exact (ih hrest).imp_left (congrArg _)
    | leave _ hk | help hk => cases hl.unique hk
    | blank hk => exact absurd hl (hempty hk)
    | command hk | dropped hk => exact absurd hl (hk _)
  | blank hl _ ih =>
    cases k with
    | blank _ hrest => exact ih hrest
    | leave _ hk | help hk | tables hk => exact absurd hk (hempty hl)
    | command _ hk | dropped _ hk => exact absurd hl hk
  | command hr hl hg _ ih =>
    cases k with
    | command _ _ hk hrest =>
      obtain ⟨htext, rfl⟩ := hg.unique hk
      cases htext
      exact (ih hrest).imp_left (congrArg _)
    | leave _ hk | help hk | tables hk => exact absurd hk (hr _)
    | blank hk => exact absurd hk hl
    | dropped _ _ hk => cases (hg.unique hk).1
  | dropped hr hl hg =>
    cases k with
    | dropped => exact ⟨rfl, rfl⟩
    | leave _ hk | help hk | tables hk => exact absurd hk (hr _)
    | blank hk => exact absurd hk hl
    | command _ _ hk => cases (hg.unique hk).1

/-! ### The whole dialogue -/

/-- What the commands among the items do to the session and the files. -/
lemma performAll_console (c : Console) (items : List Item) :
    let after := c.session.executeAll c.files (items.filterMap Item.command?)
    (c.performAll items).console.session = after.1 ∧ (c.performAll items).console.files = after.2 := by
  induction items generalizing c with
  | nil => exact ⟨rfl, rfl⟩
  | cons item items ih => cases item <;> exact ih _

/-- **A dialogue refines its session.** Lines of whatever kind are cut into commands and requests in
one way. The dialogue over them comes to an end; it leaves the session and the files as they are
after the commands, executed one after the other whatever they are answered, and it shows what is
shown for the commands and requests, in their order, and nothing else. -/
theorem converse_segments (s : Session) (files : Files) (lines : List String) :
    ∃ items ending, Segments lines items ending ∧
      (∀ parts last, Segments lines parts last → parts = items ∧ last = ending) ∧
      let d := (start s files).converse (lines.map .line)
      let turn := (start s files).performAll items
      let after := s.executeAll files (items.filterMap Item.command?)
      d.console = ⟨after.1, after.2, .nothing⟩ ∧
        d.shown = greeting ++ turn.shown ++ ending.text ∧ d.notices = turn.notices := by
  obtain ⟨items, ending, h⟩ := exists_segments lines
  have hhear := hear_segments (c := start s files) h rfl
  rw [hear, Turn.andThen, finish, Turn.mk.injEq] at hhear
  obtain ⟨hconsole, hshown, hnotices⟩ := hhear
  obtain ⟨hsession, hfiles⟩ := performAll_console (start s files) items
  refine ⟨items, ending, h, fun parts last hparts => hparts.unique h, ?_, ?_, ?_⟩
  · rw [converse, hconsole, hsession, hfiles]
    rfl
  · rw [converse, hshown, String.append_assoc]
  · rw [converse, hnotices, List.append_nil]

/-- Within a command, no line is a request. -/
example : Segments ["SELECT *", " exit ", "FROM t;", "Exit", "help"]
    [.command "SELECT * exit FROM t;"] .left :=
  .command (request?_eq_none.1 rfl) (by decide)
    (.more (by decide) (by decide) (.more (by decide) (by decide) (.complete _ (by decide))))
    (.leave _ (request?_eq_some.1 rfl))

end Console

end Tabula
