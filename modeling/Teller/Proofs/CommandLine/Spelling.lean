import Mathlib.Data.List.Nodup
import Teller.CommandLine.Read

/-!
# What a command line spells

A command line that is run spells flags with their values, each in one word or in two, and behind
them a command. What is run is what it spells, and whatever is spelled so is run.

* `Command.Spelled`, `Spells`: the words of a command and of a command line.
* `Fit`: flags that can stand together.
* `Command.read_eq_run_iff`: which words are read as a command.
* `Reaches`: what is spelled behind flags that are read already; `readFrom_eq_run_iff`: it is read.
* `read_eq_run_iff`: which command lines are run.
-/

namespace Teller.CommandLine

/-! ## Grammar -/

/-- Nothing more on a command line. -/
def AtEnd (words : List String) : Prop := words = [] ∨ words = ["--"]

/-- **The words of a command.** Behind a divider, a decision can be any word. -/
inductive Command.Spelled : Command → List String → Prop
  | confirmTan {rest : List String} (h : AtEnd rest) : Spelled .confirmTan ("confirm-tan" :: rest)
  | consent {d : String} {rest : List String} (hd : Word.ofText [] d = .plain d) (h : AtEnd rest) :
      Spelled (.consent d) ("consent" :: d :: rest)
  | consentDivided (d : String) : Spelled (.consent d) ["consent", "--", d]
  | payment {rest : List String} (h : AtEnd rest) : Spelled .payment ("payment" :: rest)

/-- **The words of a command line**: flags, each with its value in one word or in two, and a command
behind them. -/
inductive Spells : List String → List (Flag × String) → Command → Prop
  | command {words : List String} {c : Command} (h : c.Spelled words) : Spells words [] c
  | attached {f : Flag} {value w : String} {words : List String} {given : List (Flag × String)}
      {c : Command} (h : Word.ofText Flag.all w = .flag f (some value))
      (rest : Spells words given c) : Spells (w :: words) ((f, value) :: given) c
  | apart {f : Flag} {value w : String} {words : List String} {given : List (Flag × String)}
      {c : Command} (h : Word.ofText Flag.all w = .flag f none)
      (hv : Word.ofText Flag.all value = .plain value) (rest : Spells words given c) :
      Spells (w :: value :: words) ((f, value) :: given) c

/-- **Flags that can stand together**: none is given twice, and no path is empty. -/
structure Fit (given : List (Flag × String)) : Prop where
  once : (given.map Prod.fst).Nodup
  path : (Flag.config, "") ∉ given

/-! ## Words -/

namespace Word

variable {flags : List Flag} {w text : String}

/-- What a word with a dash at its start can be. -/
def Dashed (flags : List Flag) : Word → Prop
  | .flag f _ => f ∈ flags
  | .help _ | .unknown _ => True
  | .divider | .plain _ => False

theorem dashed_long (flags : List Flag) (cs : List Char) : Dashed flags (long flags cs) := by
  unfold long
  dsimp only
  split
  · rename_i f hf
    exact List.mem_of_find?_eq_some hf
  · split <;> trivial

theorem dashed_short (flags : List Flag) (letter : Char) (rest : List Char) :
    Dashed flags (short flags letter rest) := by
  unfold short
  split
  · rename_i f hf
    exact List.mem_of_find?_eq_some hf
  · split <;> trivial

/-- **What a word can be**: a divider, a plain word, or one with a dash at its start. -/
theorem ofText_cases (flags : List Flag) (w : String) :
    (w = "--" ∧ ofText flags w = .divider) ∨ ofText flags w = .plain w ∨
      Dashed flags (ofText flags w) := by
  unfold ofText
  split
  · rename_i h
    exact Or.inl ⟨String.toList_inj.1 h, rfl⟩
  · exact Or.inr (Or.inr (dashed_long flags _))
  · exact Or.inr (Or.inr (dashed_short flags _ _))
  · exact Or.inr (Or.inl rfl)

theorem eq_of_plain (h : ofText flags w = .plain text) : text = w := by
  rcases ofText_cases flags w with ⟨-, h'⟩ | h' | hdash
  · rw [h'] at h
    cases h
  · rw [h'] at h
    cases h
    rfl
  · rw [h] at hdash
    exact hdash.elim

theorem ofText_eq_divider_iff : ofText flags w = .divider ↔ w = "--" := by
  constructor
  · intro h
    rcases ofText_cases flags w with ⟨hw, -⟩ | h' | hdash
    · exact hw
    · rw [h'] at h
      cases h
    · rw [h] at hdash
      exact hdash.elim
  · rintro rfl
    rfl

/-- Where no flags may stand, no word is a flag. -/
theorem ofText_ne_flag (w : String) (f : Flag) (attached : Option String) :
    ofText [] w ≠ .flag f attached := by
  intro h
  rcases ofText_cases [] w with ⟨-, h'⟩ | h' | hdash
  · rw [h'] at h
    cases h
  · rw [h'] at h
    cases h
  · rw [h] at hdash
    cases hdash

end Word

/-! ## Commands -/

namespace Command

variable {i : Invocation} {topic : Topic}

theorem helpOn_ne_run (topic : Topic) (attached : Option String) :
    helpOn topic attached ≠ .run i := by
  cases attached <;> nofun

/-- The words of a command without arguments. -/
theorem readBare_eq_run_iff {next : Reading} {words : List String} :
    readBare topic next false words = .run i ↔ next = .run i ∧ AtEnd words := by
  unfold AtEnd
  cases words with
  | nil => simp [readBare]
  | cons w rest =>
    rw [readBare, if_neg Bool.false_ne_true]
    by_cases hw : w = "--"
    · rw [Word.ofText_eq_divider_iff.2 hw]
      cases rest <;> simp [readBare, hw]
    · have hend : ¬ (w :: rest = [] ∨ w :: rest = ["--"]) := by simp [hw]
      rw [iff_false_right (fun h => hend h.2)]
      cases h : Word.ofText [] w with
      | divider => exact absurd (Word.ofText_eq_divider_iff.1 h) hw
      | help attached => exact helpOn_ne_run topic attached
      | _ => nofun

/-- Behind a decision, nothing more can stand than behind a command without arguments. -/
theorem readConsent_decided (next : String → Reading) (d : String) (divided : Bool)
    (words : List String) :
    readConsent next divided (some d) words = readBare .consent (next d) divided words := by
  induction words generalizing divided with
  | nil => rfl
  | cons w rest ih =>
    cases divided with
    | true => rfl
    | false =>
      rw [readConsent, readBare, if_neg Bool.false_ne_true, if_neg Bool.false_ne_true]
      cases Word.ofText [] w with
      | divider => exact ih true
      | _ => rfl

/-- Behind a divider, the decision is one word. -/
theorem readConsent_divided {next : String → Reading} {words : List String} :
    readConsent next true none words = .run i ↔ ∃ d, words = [d] ∧ next d = .run i := by
  match words with
  | [] => simp [readConsent]
  | [d] => simp [readConsent]
  | d :: d' :: rest => simp [readConsent]

/-- The words of a consent. -/
theorem readConsent_eq_run_iff {next : String → Reading} {words : List String} :
    readConsent next false none words = .run i ↔
      ∃ d, next d = .run i ∧ (words = ["--", d] ∨
        ∃ rest, words = d :: rest ∧ Word.ofText [] d = .plain d ∧ AtEnd rest) := by
  cases words with
  | nil => simp [readConsent]
  | cons w rest =>
    rw [readConsent, if_neg Bool.false_ne_true]
    by_cases hw : w = "--"
    · subst hw
      rw [Word.ofText_eq_divider_iff.2 rfl]
      dsimp only
      rw [readConsent_divided]
      constructor
      · rintro ⟨d, rfl, hd⟩
        exact ⟨d, hd, Or.inl rfl⟩
      · rintro ⟨d, hd, h | ⟨_, h, hplain, -⟩⟩
        · cases h
          exact ⟨d, rfl, hd⟩
        · cases h
          cases hplain
    · by_cases hplain : Word.ofText [] w = .plain w
      · rw [hplain]
        dsimp only
        rw [readConsent_decided, readBare_eq_run_iff]
        constructor
        · rintro ⟨hd, hend⟩
          exact ⟨w, hd, Or.inr ⟨rest, rfl, hplain, hend⟩⟩
        · rintro ⟨d, hd, h | ⟨_, h, -, hend⟩⟩
          · cases h
            exact absurd rfl hw
          · cases h
            exact ⟨hd, hend⟩
      · -- No other word can stand here.
        have hno : ¬ ∃ d, next d = .run i ∧ (w :: rest = ["--", d] ∨
            ∃ rest', w :: rest = d :: rest' ∧ Word.ofText [] d = .plain d ∧ AtEnd rest') := by
          rintro ⟨d, -, h | ⟨_, h, hd, -⟩⟩
          · cases h
            exact hw rfl
          · cases h
            exact hplain hd
        rw [iff_false_right hno]
        cases h : Word.ofText [] w with
        | divider => exact absurd (Word.ofText_eq_divider_iff.1 h) hw
        | flag f attached => exact absurd h (Word.ofText_ne_flag w f attached)
        | help attached => exact helpOn_ne_run .consent attached
        | unknown shown => nofun
        | plain text =>
          cases Word.eq_of_plain h
          exact absurd h hplain

theorem readHelp_ne_run (topic : Topic) (words : List String) : readHelp topic words ≠ .run i := by
  induction words generalizing topic with
  | nil => nofun
  | cons w rest ih =>
    unfold readHelp
    split
    · exact ih _
    · nofun

/-- **The words of a command**, its name among them. -/
theorem read_eq_run_iff {next : Command → Reading} {w : String} {rest : List String} :
    (∃ topic, Topic.ofName? w = some topic ∧ Command.read topic next rest = .run i) ↔
      ∃ c, next c = .run i ∧ Command.Spelled c (w :: rest) := by
  constructor
  · rintro ⟨topic, hname, h⟩
    have hw : w = topic.name := by
      unfold Topic.ofName? at hname
      have hfound := List.find?_some hname
      exact (beq_iff_eq.1 hfound).symm
    subst hw
    cases topic with
    | confirmTan =>
      obtain ⟨hnext, hend⟩ := readBare_eq_run_iff.1 h
      exact ⟨_, hnext, .confirmTan hend⟩
    | consent =>
      obtain ⟨d, hnext, rfl | ⟨rest, rfl, hd, hend⟩⟩ := readConsent_eq_run_iff.1 h
      · exact ⟨_, hnext, .consentDivided d⟩
      · exact ⟨_, hnext, .consent hd hend⟩
    | payment =>
      obtain ⟨hnext, hend⟩ := readBare_eq_run_iff.1 h
      exact ⟨_, hnext, .payment hend⟩
    | help => exact absurd h (readHelp_ne_run _ _)
    | program => exact absurd h (readHelp_ne_run _ _)
  · rintro ⟨c, hnext, hc⟩
    cases hc with
    | confirmTan hend => exact ⟨.confirmTan, rfl, readBare_eq_run_iff.2 ⟨hnext, hend⟩⟩
    | @consent d rest hd hend =>
      exact ⟨.consent, rfl, readConsent_eq_run_iff.2 ⟨d, hnext, Or.inr ⟨rest, rfl, hd, hend⟩⟩⟩
    | consentDivided d =>
      exact ⟨.consent, rfl, readConsent_eq_run_iff.2 ⟨d, hnext, Or.inl rfl⟩⟩
    | payment hend => exact ⟨.payment, rfl, readBare_eq_run_iff.2 ⟨hnext, hend⟩⟩

end Command

/-- The name of a command is a plain word. -/
theorem Command.Spelled.plain {c : Command} {w : String} {rest : List String}
    (h : c.Spelled (w :: rest)) : Word.ofText Flag.all w = .plain w := by
  cases h <;> rfl

/-! ## Flags -/

theorem Fit.nil : Fit [] := ⟨List.nodup_nil, List.not_mem_nil⟩

theorem fit_append_iff {given : List (Flag × String)} {f : Flag} {value : String} :
    Fit (given ++ [(f, value)]) ↔
      Fit given ∧ f ∉ given.map Prod.fst ∧ ¬ (f = .config ∧ value = "") := by
  constructor
  · rintro ⟨honce, hpath⟩
    rw [List.map_append, List.nodup_append_comm] at honce
    have hnew := List.nodup_cons.1 honce
    refine ⟨⟨hnew.2, fun h => hpath (List.mem_append_left _ h)⟩, hnew.1, ?_⟩
    rintro ⟨rfl, rfl⟩
    exact hpath (List.mem_append_right _ (List.mem_singleton.2 rfl))
  · rintro ⟨⟨honce, hpath⟩, hnew, hvalue⟩
    refine ⟨?_, ?_⟩
    · rw [List.map_append, List.nodup_append_comm]
      exact List.nodup_cons.2 ⟨hnew, honce⟩
    · rw [List.mem_append, List.mem_singleton, Prod.mk.injEq]
      rintro (h | ⟨hf, hv⟩)
      · exact hpath h
      · exact hvalue ⟨hf.symm, hv.symm⟩

theorem Fit.of_append {given more : List (Flag × String)} (h : Fit (given ++ more)) :
    Fit given := by
  obtain ⟨honce, hpath⟩ := h
  rw [List.map_append] at honce
  exact ⟨honce.of_append_left, fun h => hpath (List.mem_append_left _ h)⟩

namespace Settled

variable {s s' : Settled} {f : Flag} {value : String}

/-- The flags with the one that is open, unless that waits for its value. -/
def held? (s : Settled) : Option (List (Flag × String)) :=
  match s.opened with
  | none => some s.given
  | some (_, none) => none
  | some (f, some value) => some (s.given ++ [(f, value)])

theorem set_eq_ok_iff (h : Fit s.given) :
    s.set f value = .ok s' ↔
      Fit (s.given ++ [(f, value)]) ∧ s' = { given := s.given ++ [(f, value)] } := by
  have hany : s.given.any (·.1 == f) = true ↔ f ∈ s.given.map Prod.fst := by
    simp [List.any_eq_true]
  rw [fit_append_iff, ← hany]
  unfold set
  by_cases hnew : s.given.any (·.1 == f) = true
  · simp [hnew]
  · by_cases hvalue : f = .config ∧ value = ""
    · rw [if_neg hnew, if_pos hvalue]
      simp [hvalue]
    · rw [if_neg hnew, if_neg hvalue, Except.ok.injEq]
      exact ⟨fun heq => ⟨⟨h, hnew, hvalue⟩, heq.symm⟩, fun heq => heq.2.symm⟩

/-- The open flag is closed once its value is known. -/
theorem close_eq_ok_iff (h : Fit s.given) :
    s.close = .ok s' ↔ ∃ given, s.held? = some given ∧ Fit given ∧ s' = { given } := by
  obtain ⟨given, opened⟩ := s
  unfold close held?
  match opened with
  | none =>
    constructor
    · intro heq
      cases heq
      exact ⟨given, rfl, h, rfl⟩
    · rintro ⟨_, ⟨⟩, -, rfl⟩
      rfl
  | some (f, none) =>
    constructor
    · intro heq
      cases heq
    · rintro ⟨_, ⟨⟩, -⟩
  | some (f, some value) =>
    dsimp only
    rw [set_eq_ok_iff h]
    constructor
    · rintro ⟨hfit, rfl⟩
      exact ⟨_, rfl, hfit, rfl⟩
    · rintro ⟨_, ⟨⟩, hfit, rfl⟩
      exact ⟨hfit, rfl⟩

/-- What follows closing the open flag goes on with all that are held. -/
theorem bind_close_eq_ok_iff {α : Type} {next : Settled → Except UsageError α} {a : α}
    (h : Fit s.given) :
    s.close.bind next = .ok a ↔
      ∃ given, s.held? = some given ∧ Fit given ∧ next { given } = .ok a := by
  constructor
  · intro heq
    cases hclose : s.close with
    | error e =>
      rw [hclose] at heq
      cases heq
    | ok closed =>
      obtain ⟨given, hheld, hfit, rfl⟩ := (close_eq_ok_iff h).1 hclose
      rw [hclose] at heq
      exact ⟨given, hheld, hfit, heq⟩
  · rintro ⟨given, hheld, hfit, hnext⟩
    rw [(close_eq_ok_iff h).2 ⟨given, hheld, hfit, rfl⟩]
    exact hnext

/-- A flag that has its value in its word is set behind those that are held. -/
theorem begin_attached (h : Fit s.given) :
    s.begin f (some value) = .ok s' ↔ ∃ given, s.held? = some given ∧
      Fit (given ++ [(f, value)]) ∧ s' = { given := given ++ [(f, value)] } := by
  have hbind : s.begin f (some value) = s.close.bind fun s => s.set f value := rfl
  rw [hbind, bind_close_eq_ok_iff h]
  constructor
  · rintro ⟨given, hheld, hfit, hset⟩
    exact ⟨given, hheld, (set_eq_ok_iff hfit).1 hset⟩
  · rintro ⟨given, hheld, hfit, rfl⟩
    have hgiven := hfit.of_append
    exact ⟨given, hheld, hgiven, (set_eq_ok_iff hgiven).2 ⟨hfit, rfl⟩⟩

/-- Any other flag is opened behind them. -/
theorem begin_apart (h : Fit s.given) :
    s.begin f none = .ok s' ↔ ∃ given, s.held? = some given ∧ Fit given ∧
      s' = { given, opened := some (f, none) } := by
  have hbind : s.begin f none = s.close.bind fun s => .ok { s with opened := some (f, none) } := rfl
  rw [hbind, bind_close_eq_ok_iff h]
  constructor
  · rintro ⟨given, hheld, hfit, hopen⟩
    cases hopen
    exact ⟨given, hheld, hfit, rfl⟩
  · rintro ⟨given, hheld, hfit, rfl⟩
    exact ⟨given, hheld, hfit, rfl⟩

end Settled

/-! ## Command lines -/

variable {s : Settled} {i : Invocation} {w : String} {words : List String}
  {given : List (Flag × String)} {f : Flag}

/-- **What is spelled behind flags** that are read already: more of them and a command. -/
def Reaches (given : List (Flag × String)) (words : List String) (i : Invocation) : Prop :=
  ∃ more c, Spells words more c ∧ Fit (given ++ more) ∧
    i = Settled.invocation { given := given ++ more } c

theorem Reaches.fit (h : Reaches given words i) : Fit given := by
  obtain ⟨_, _, -, hfit, -⟩ := h
  exact hfit.of_append

theorem not_reaches_nil : ¬ Reaches given [] i := by
  rintro ⟨_, _, h, -⟩
  cases h with
  | command h => cases h

/-- A flag that has its value in its word. -/
theorem reaches_attached {value : String} (hw : Word.ofText Flag.all w = .flag f (some value)) :
    Reaches given (w :: words) i ↔ Reaches (given ++ [(f, value)]) words i := by
  constructor
  · rintro ⟨more, c, h, hfit, hi⟩
    cases h with
    | command h =>
      rw [h.plain] at hw
      cases hw
    | attached h rest =>
      rw [h] at hw
      cases hw
      rw [List.append_cons] at hfit hi
      exact ⟨_, c, rest, hfit, hi⟩
    | apart h _ _ =>
      rw [h] at hw
      cases hw
  · rintro ⟨more, c, rest, hfit, hi⟩
    rw [← List.append_cons] at hfit hi
    exact ⟨_, c, .attached hw rest, hfit, hi⟩

/-- Any other flag takes the next word. -/
theorem reaches_apart (hw : Word.ofText Flag.all w = .flag f none) :
    Reaches given (w :: words) i ↔ ∃ value words', words = value :: words' ∧
      Word.ofText Flag.all value = .plain value ∧ Reaches (given ++ [(f, value)]) words' i := by
  constructor
  · rintro ⟨more, c, h, hfit, hi⟩
    cases h with
    | command h =>
      rw [h.plain] at hw
      cases hw
    | attached h _ =>
      rw [h] at hw
      cases hw
    | @apart _ value _ words' _ _ h hv rest =>
      rw [h] at hw
      cases hw
      rw [List.append_cons] at hfit hi
      exact ⟨value, words', rfl, hv, _, c, rest, hfit, hi⟩
  · rintro ⟨value, words', rfl, hv, more, c, rest, hfit, hi⟩
    rw [← List.append_cons] at hfit hi
    exact ⟨_, c, .apart hw hv rest, hfit, hi⟩

/-- A plain word names a command. -/
theorem reaches_plain (hw : Word.ofText Flag.all w = .plain w) :
    Reaches given (w :: words) i ↔ Fit given ∧ ∃ c, c.Spelled (w :: words) ∧
      i = Settled.invocation { given } c := by
  constructor
  · rintro ⟨more, c, h, hfit, hi⟩
    cases h with
    | command h =>
      rw [List.append_nil] at hfit hi
      exact ⟨hfit, c, h, hi⟩
    | attached h _ | apart h _ _ =>
      rw [h] at hw
      cases hw
  · rintro ⟨hfit, c, h, hi⟩
    refine ⟨[], c, .command h, ?_, ?_⟩
    · rwa [List.append_nil]
    · rwa [List.append_nil]

/-- No other word can stand where flags may. -/
theorem not_reaches (hflag : ∀ f attached, Word.ofText Flag.all w ≠ .flag f attached)
    (hplain : ∀ text, Word.ofText Flag.all w ≠ .plain text) : ¬ Reaches given (w :: words) i := by
  rintro ⟨_, _, h, -⟩
  cases h with
  | command h => exact hplain _ h.plain
  | attached h _ | apart h _ _ => exact hflag _ _ h

theorem andThen_eq_run_iff {α : Type} {x : Except UsageError α} {next : α → Reading} :
    Reading.andThen x next = .run i ↔ ∃ a, x = .ok a ∧ next a = .run i := by
  cases x with
  | error e =>
    constructor
    · intro h
      cases h
    · rintro ⟨_, ⟨⟩, -⟩
  | ok a =>
    constructor
    · intro h
      exact ⟨a, rfl, h⟩
    · rintro ⟨_, ⟨⟩, h⟩
      exact h

theorem finish_ne_run (s : Settled) : finish s ≠ .run i := by
  intro h
  obtain ⟨_, -, h⟩ := andThen_eq_run_iff.1 h
  cases h

/-- A command closes the flags that are held. -/
theorem afterFlags_eq_run_iff (hs : Fit s.given) (hheld : s.held? = some given) :
    afterFlags s w words = .run i ↔ Fit given ∧ ∃ c, c.Spelled (w :: words) ∧
      i = Settled.invocation { given } c := by
  have hclose (c : Command) :
      (Reading.andThen s.close fun s => .run (s.invocation c)) = .run i ↔
        Fit given ∧ i = Settled.invocation { given } c := by
    rw [andThen_eq_run_iff]
    constructor
    · rintro ⟨closed, h, hrun⟩
      obtain ⟨_, hheld', hfit, rfl⟩ := (Settled.close_eq_ok_iff hs).1 h
      rw [hheld] at hheld'
      cases hheld'
      cases hrun
      exact ⟨hfit, rfl⟩
    · rintro ⟨hfit, rfl⟩
      exact ⟨_, (Settled.close_eq_ok_iff hs).2 ⟨given, hheld, hfit, rfl⟩, rfl⟩
  have hread : afterFlags s w words = .run i ↔ ∃ topic, Topic.ofName? w = some topic ∧
      Command.read topic (fun c => Reading.andThen s.close fun s => .run (s.invocation c)) words =
        .run i := by
    unfold afterFlags
    cases Topic.ofName? w with
    | none => simp
    | some topic => simp
  rw [hread, Command.read_eq_run_iff]
  constructor
  · rintro ⟨c, h, hc⟩
    obtain ⟨hfit, hi⟩ := (hclose c).1 h
    exact ⟨hfit, c, hc, hi⟩
  · rintro ⟨hfit, c, hc, hi⟩
    exact ⟨c, (hclose c).2 ⟨hfit, hi⟩, hc⟩

/-- No word but a flag and a plain word leads to a command. -/
theorem readFrom_ne_run (hflag : ∀ f attached, Word.ofText Flag.all w ≠ .flag f attached)
    (hplain : ∀ text, Word.ofText Flag.all w ≠ .plain text) (s : Settled) :
    readFrom s (w :: words) ≠ .run i := by
  rw [readFrom.eq_def]
  dsimp only
  cases hw : Word.ofText Flag.all w with
  | divider =>
    cases words with
    | nil => exact finish_ne_run s
    | cons w rest => nofun
  | flag f attached => exact absurd hw (hflag f attached)
  | help attached =>
    cases attached with
    | some value => nofun
    | none =>
      intro h
      obtain ⟨_, -, h⟩ := andThen_eq_run_iff.1 h
      cases h
  | unknown shown => nofun
  | plain text => exact absurd hw (hplain text)

/-- A plain word is the command, unless a flag waits for it. -/
theorem readFrom_held (hw : Word.ofText Flag.all w = .plain w) (hheld : s.held? = some given) :
    readFrom s (w :: words) = afterFlags s w words := by
  obtain ⟨held, opened⟩ := s
  rw [readFrom.eq_def]
  dsimp only
  rw [hw]
  match opened with
  | none => rfl
  | some (f, none) => cases hheld
  | some (f, some value) => rfl

theorem readFrom_waiting (hw : Word.ofText Flag.all w = .plain w)
    (hopened : s.opened = some (f, none)) :
    readFrom s (w :: words) = readFrom { s with opened := some (f, some w) } words := by
  obtain ⟨held, opened⟩ := s
  cases hopened
  rw [readFrom.eq_def]
  dsimp only
  rw [hw]

/-- A flag is begun, and the words behind it are read. -/
theorem readFrom_flag {attached : Option String} (hw : Word.ofText Flag.all w = .flag f attached) :
    readFrom s (w :: words) = .run i ↔
      ∃ s', s.begin f attached = .ok s' ∧ readFrom s' words = .run i := by
  rw [readFrom.eq_def]
  dsimp only
  rw [hw]
  dsimp only
  cases s.begin f attached with
  | error e => simp
  | ok s' => simp

/-- **The words from a place on** are run if they spell flags and a command. Where a flag waits for
its value, the first of them is that. -/
theorem readFrom_eq_run_iff (hs : Fit s.given) (i : Invocation) (words : List String) :
    (∀ given, s.held? = some given → (readFrom s words = .run i ↔ Reaches given words i)) ∧
      ∀ f, s.opened = some (f, none) → (readFrom s words = .run i ↔
        ∃ value words', words = value :: words' ∧ Word.ofText Flag.all value = .plain value ∧
          Reaches (s.given ++ [(f, value)]) words' i) := by
  -- A flag in two words is read in two steps, so both kinds of places are followed at once.
  induction words generalizing s with
  | nil =>
    refine ⟨fun given _ => ?_, fun f _ => ?_⟩
    · exact iff_of_false (finish_ne_run s) not_reaches_nil
    · refine iff_of_false (finish_ne_run s) ?_
      rintro ⟨_, _, ⟨⟩, -⟩
  | cons w rest ih =>
    cases hw : Word.ofText Flag.all w with
    | plain text =>
      cases Word.eq_of_plain hw
      refine ⟨fun given hheld => ?_, fun f hopened => ?_⟩
      · rw [readFrom_held hw hheld, afterFlags_eq_run_iff hs hheld, reaches_plain hw]
      · rw [readFrom_waiting hw hopened]
        have hread := (@ih { s with opened := some (f, some w) } hs).1 _ rfl
        rw [hread]
        constructor
        · intro h
          exact ⟨w, rest, rfl, hw, h⟩
        · rintro ⟨_, _, h, -, hreach⟩
          cases h
          exact hreach
    | flag f attached =>
      refine ⟨fun given hheld => ?_, fun f' hopened => ?_⟩
      · cases attached with
        | some value =>
          rw [readFrom_flag hw, reaches_attached hw]
          constructor
          · rintro ⟨s', hbegin, h⟩
            obtain ⟨_, hheld', hfit, rfl⟩ := (Settled.begin_attached hs).1 hbegin
            cases hheld.symm.trans hheld'
            exact ((ih hfit).1 _ rfl).1 h
          · intro h
            refine ⟨_, (Settled.begin_attached hs).2 ⟨given, hheld, h.fit, rfl⟩, ?_⟩
            exact ((ih h.fit).1 _ rfl).2 h
        | none =>
          rw [readFrom_flag hw, reaches_apart hw]
          constructor
          · rintro ⟨s', hbegin, h⟩
            obtain ⟨_, hheld', hfit, rfl⟩ := (Settled.begin_apart hs).1 hbegin
            cases hheld.symm.trans hheld'
            exact ((ih hfit).2 f rfl).1 h
          · rintro ⟨value, words', hrest, hv, h⟩
            have hfit := h.fit.of_append
            refine ⟨_, (Settled.begin_apart hs).2 ⟨given, hheld, hfit, rfl⟩, ?_⟩
            exact ((ih hfit).2 f rfl).2 ⟨value, words', hrest, hv, h⟩
      · -- A flag that waits takes no other flag for its value.
        have hnone : s.held? = none := by
          unfold Settled.held?
          rw [hopened]
        have hread : ¬ readFrom s (w :: rest) = .run i := by
          rw [readFrom_flag hw]
          rintro ⟨s', hbegin, -⟩
          cases attached with
          | some value =>
            obtain ⟨_, hheld, -⟩ := (Settled.begin_attached hs).1 hbegin
            rw [hnone] at hheld
            cases hheld
          | none =>
            obtain ⟨_, hheld, -⟩ := (Settled.begin_apart hs).1 hbegin
            rw [hnone] at hheld
            cases hheld
        refine iff_of_false hread ?_
        rintro ⟨_, _, h, hv, -⟩
        cases h
        rw [hw] at hv
        cases hv
    | divider | help | unknown =>
      have hflag : ∀ f attached, Word.ofText Flag.all w ≠ .flag f attached := by simp [hw]
      have hplain : ∀ text, Word.ofText Flag.all w ≠ .plain text := by simp [hw]
      refine ⟨fun given _ => ?_, fun f _ => ?_⟩
      · exact iff_of_false (readFrom_ne_run hflag hplain s) (not_reaches hflag hplain)
      · refine iff_of_false (readFrom_ne_run hflag hplain s) ?_
        rintro ⟨_, _, h, hv, -⟩
        cases h
        exact hplain _ hv

/-- **A command line is run** exactly if it spells flags that can stand together and a command. -/
theorem read_eq_run_iff :
    read words = .run i ↔ ∃ given c, Spells words given c ∧ Fit given ∧
      i = Settled.invocation { given } c :=
  (@readFrom_eq_run_iff {} Fit.nil i words).1 [] rfl

end Teller.CommandLine
