import Handbook.CommandLine.Run
import Mathlib.Data.List.TakeWhile

/-! Command lines that ask for a page. The settings of the site stand before the command, each in one
of its spellings and in any order; as long as none of them repeats, they are all understood, and so
is the page behind the command. -/
namespace Handbook.CommandLines
open CommandLine

/-! ## Numbers -/

/-- Reading further digits makes no number smaller. -/
theorem le_ofDigitChars (cs : List Char) (n : Nat) : n ≤ Nat.ofDigitChars 10 cs n := by
  induction cs generalizing n with
  | nil => exact Nat.le_refl n
  | cons c cs ih =>
    rw [Nat.ofDigitChars_cons]
    exact Nat.le_trans (by omega) (ih _)

/-- Digits are read as the number they make, unless that is too large. -/
theorem readDigits_eq_ok (digits : ∀ c ∈ cs, c.isDigit = true)
    (small : Nat.ofDigitChars 10 cs n < limit) :
    readDigits limit n cs = .ok (Nat.ofDigitChars 10 cs n) := by
  induction cs generalizing n with
  | nil => rfl
  | cons c cs ih =>
    have zero : '0'.toNat = 48 := rfl
    rw [Nat.ofDigitChars_cons, zero, Nat.mul_comm] at small ⊢
    have below : n * 10 + (c.toNat - 48) < limit := Nat.lt_of_le_of_lt (le_ofDigitChars cs _) small
    rw [readDigits, if_pos (digits c List.mem_cons_self), if_pos below]
    exact ih (fun d member => digits d (List.mem_cons_of_mem c member)) small

/-- Without a sign, a number is read from its first character on. -/
theorem readNumber_unsigned (unsigned : c ≠ '+') (written : text.toList = c :: cs) :
    readNumber limit text = readDigits limit 0 (c :: cs) := by
  rw [readNumber, written]
  split
  · rename_i empty
    cases empty
  · rename_i sign
    cases sign
    exact absurd rfl unsigned
  · rename_i sign
    cases sign
    exact absurd rfl unsigned
  · rfl

/-- Every number below the limit can be given by its digits. -/
theorem readNumber_toString (small : n < limit) : readNumber limit (toString n) = .ok n := by
  have written : (toString n).toList = Nat.toDigits 10 n := by simp
  have digits : ∀ c ∈ Nat.toDigits 10 n, c.isDigit = true :=
    fun c member => Nat.isDigit_of_mem_toDigits (by decide) (by decide) member
  cases spelled : Nat.toDigits 10 n with
  | nil => exact absurd spelled Nat.toDigits_ne_nil
  | cons c cs =>
    have unsigned : c ≠ '+' := by
      rintro rfl
      exact absurd (digits '+' (by rw [spelled]; exact List.mem_cons_self)) (by decide)
    rw [readNumber_unsigned unsigned (written.trans spelled), ← spelled, readDigits_eq_ok digits,
      Nat.ofDigitChars_ten_toDigits]
    rwa [Nat.ofDigitChars_ten_toDigits]

/-- A number has no dash in front. -/
theorem head?_ne_dash_of_readNumber (read : readNumber limit text = .ok n) :
    text.toList.head? ≠ some '-' := by
  intro dash
  obtain ⟨rest, written⟩ := List.head?_eq_some_iff.mp dash
  have refused : readNumber limit text = .error .digit := by
    rw [readNumber, written]
    rfl
  rw [refused] at read
  cases read

/-! ## Settings -/

/-- What may be set before a command. -/
inductive Setting where
  | root (directory : String)
  | linkStyle (style : LinkStyle)
  | noRibbon
  | timeout (seconds : String)
  | verbose
  | quiet
  deriving DecidableEq

/-- A setting is spelled in two words, the flag and its value, or closely in one. A switch has its
name or its letter. -/
inductive Spelling where
  | wide
  | close
  deriving DecidableEq

/-- The word for a link style. -/
def styleWord : LinkStyle → String
  | .plain => "plain"
  | .emphasized => "emphasized"

namespace Setting

/-- The flag of a setting. -/
def flag : Setting → Flag
  | root _ => .root
  | linkStyle _ => .linkStyle
  | noRibbon => .noRibbon
  | timeout _ => .timeout
  | verbose => .verbose
  | quiet => .quiet

/-- The value behind the flag. A switch has none. -/
def value : Setting → String
  | root directory => directory
  | linkStyle style => styleWord style
  | timeout seconds => seconds
  | _ => ""

/-- The words for a setting. -/
def words : Setting → Spelling → List String
  | root directory, .wide => ["--root", directory]
  | root directory, .close => ["--root=" ++ directory]
  | linkStyle style, .wide => ["--link-style", styleWord style]
  | linkStyle style, .close => ["--link-style=" ++ styleWord style]
  | noRibbon, _ => ["--no-ribbon"]
  | timeout seconds, .wide => ["--timeout", seconds]
  | timeout seconds, .close => ["--timeout=" ++ seconds]
  | verbose, .wide => ["--verbose"]
  | verbose, .close => ["-v"]
  | quiet, .wide => ["--quiet"]
  | quiet, .close => ["-q"]

/-- Whether a setting can be understood: a directory has a name that is not taken for a flag, and a
timeout is a number below the limit. -/
def Fits (limit : Nat) : Setting → Prop
  | root directory => directory ≠ "" ∧ directory.toList.head? ≠ some '-'
  | timeout seconds => ∃ n < limit, readNumber secondsLimit seconds = .ok n
  | _ => True

end Setting

/-- What is read from settings. -/
def taken (settings : List Setting) : Reading :=
  ⟨settings.map fun setting => (setting.flag, setting.value), none, none⟩

theorem has_taken_iff : (taken settings).has flag = true ↔ flag ∈ settings.map Setting.flag := by
  simp [Reading.has, taken]

/-- The value of a setting is one that its flag takes. -/
theorem fault?_value {setting : Setting} (fits : setting.Fits limit)
    (takes : setting.flag.value? = some (kind, name)) :
    kind.fault? setting.flag setting.value = none := by
  cases setting with
  | root directory =>
    cases takes
    exact if_neg fits.1
  | linkStyle style =>
    cases takes
    cases style <;> decide
  | timeout seconds =>
    cases takes
    obtain ⟨n, _, read⟩ := fits
    simp only [Setting.value, ValueKind.fault?, read]
  | noRibbon | verbose | quiet => cases takes

/-- A setting that is new among the settings is taken as one more of them. -/
theorem give_taken {setting : Setting} (fits : setting.Fits limit)
    (fresh : setting.flag ∉ settings.map Setting.flag) :
    (taken settings).give setting.flag setting.value = .ok (taken (settings ++ [setting])) := by
  have unseen : ¬(taken settings).has setting.flag = true :=
    fun seen => fresh (has_taken_iff.mp seen)
  rw [Reading.give, if_neg unseen]
  cases takes : setting.flag.value? with
  | none => simp [taken]
  | some entry =>
    obtain ⟨kind, name⟩ := entry
    have sound := fault?_value fits takes
    simp [taken, sound]

/-! ## Words -/

/-- A flag of the program is found by its name. -/
theorem find?_long : ∀ flag ∈ programFlags,
    programFlags.find? (fun other => other.long == flag.long) = some flag := by
  decide

/-- The names of flags can stand before an equals sign. -/
theorem long_plain : ∀ flag ∈ programFlags,
    flag.long.toList ≠ [] ∧ flag.long.toList.all (· != '=') = true := by
  decide

theorem splitAtEquals_bare (plain : name.all (· != '=') = true) :
    Reading.splitAtEquals name = (String.ofList name, none) := by
  have all : name.takeWhile (· != '=') = name :=
    List.takeWhile_eq_self_iff.mpr (List.all_eq_true.mp plain)
  simp only [Reading.splitAtEquals, all, List.drop_length]

theorem splitAtEquals_joined (plain : name.all (· != '=') = true) (value : List Char) :
    Reading.splitAtEquals (name ++ '=' :: value) =
      (String.ofList name, some (String.ofList value)) := by
  have front : (name ++ '=' :: value).takeWhile (· != '=') = name := by
    rw [List.takeWhile_append_of_pos (List.all_eq_true.mp plain)]
    simp
  simp only [Reading.splitAtEquals, front, List.drop_left]

/-- No command begins with a dash. -/
theorem ofWord?_dash (dash : word.toList.head? = some '-') : Command.ofWord? word = none := by
  have undashed : ∀ command ∈ Command.all, command.word.toList.head? ≠ some '-' := by decide
  rw [Command.ofWord?, List.find?_eq_none]
  intro command member same
  rw [← beq_iff_eq.mp same] at dash
  exact undashed command member dash

/-- A word behind two dashes is a flag, with its value if there is an equals sign. -/
theorem words_dashes (named : name ≠ []) (written : word.toList = '-' :: '-' :: name)
    (reading : Reading) (rest : List String) :
    Reading.words .program reading (word :: rest) =
      (reading.long .program (Reading.splitAtEquals name).1 (Reading.splitAtEquals name).2).bind
        fun next => Reading.words .program next rest := by
  have noCommand := ofWord?_dash (show word.toList.head? = some '-' by rw [written]; rfl)
  cases name with
  | nil => exact absurd rfl named
  | cons c name =>
    rw [Reading.words, noCommand, ite_self, written]
    rfl

theorem words_long (known : flag ∈ programFlags)
    (written : word.toList = '-' :: '-' :: flag.long.toList) (reading : Reading)
    (rest : List String) : Reading.words .program reading (word :: rest) =
      (reading.long .program flag.long none).bind fun next =>
        Reading.words .program next rest := by
  obtain ⟨named, plain⟩ := long_plain flag known
  rw [words_dashes named written, splitAtEquals_bare plain, String.ofList_toList]

theorem words_joined (known : flag ∈ programFlags)
    (written : word.toList = '-' :: '-' :: (flag.long.toList ++ '=' :: value.toList))
    (reading : Reading) (rest : List String) : Reading.words .program reading (word :: rest) =
      (reading.long .program flag.long (some value)).bind fun next =>
        Reading.words .program next rest := by
  obtain ⟨named, plain⟩ := long_plain flag known
  rw [words_dashes (by simp) written, splitAtEquals_joined plain, String.ofList_toList,
    String.ofList_toList]

/-- A flag that has its value with it is taken at once. -/
theorem long_with_value (known : flag ∈ programFlags) (takes : flag.value?.isSome)
    (reading : Reading) (value : String) : reading.long .program flag.long (some value) =
      reading.settle.bind fun settled => settled.give flag value := by
  obtain ⟨kind, takes⟩ := Option.isSome_iff_exists.mp takes
  simp only [Reading.long, Grammar.program, find?_long flag known, takes]
  rfl

/-- A flag without its value stays unsettled. -/
theorem long_without_value {reading : Reading} (known : flag ∈ programFlags)
    (takes : flag.value?.isSome) (settles : reading.settle = .ok settled) :
    reading.long .program flag.long none = .ok { settled with unsettled := some (flag, none) } := by
  obtain ⟨kind, takes⟩ := Option.isSome_iff_exists.mp takes
  simp only [Reading.long, Grammar.program, find?_long flag known, takes, settles]
  rfl

theorem long_switch (known : flag ∈ programFlags) (bare : flag.value? = none) (reading : Reading) :
    reading.long .program flag.long none = reading.switch .program flag := by
  simp only [Reading.long, Grammar.program, find?_long flag known, bare]

/-- A word that is neither a command nor begins with a dash is the value of the flag before it, or a
word of its own. -/
theorem words_undashed {grammar : Grammar} {reading : Reading}
    (noCommand : (if grammar.hasCommands && !reading.awaitsValue then Command.ofWord? word
      else none) = none)
    (undashed : word.toList.head? ≠ some '-') (rest : List String) :
    Reading.words grammar reading (word :: rest) =
      match reading.unsettled with
      | some (flag, none) =>
        Reading.words grammar { reading with unsettled := some (flag, some word) } rest
      | _ => (reading.plain grammar word).bind fun next => Reading.words grammar next rest := by
  rw [Reading.words, noCommand]
  split
  · rename_i command
    cases command
  · split
    · rename_i written
      exact absurd (congrArg List.head? written) undashed
    · rename_i written
      exact absurd (congrArg List.head? written) undashed
    · rename_i written
      exact absurd (congrArg List.head? written) undashed
    · rename_i waits _ _ _
      rw [waits]
    · rename_i settled
      split
      · rename_i flag waits
        exact absurd waits (settled flag)
      · rfl

theorem words_value {reading : Reading} (waits : reading.unsettled = some (flag, none))
    (undashed : value.toList.head? ≠ some '-') (rest : List String) :
    Reading.words .program reading (value :: rest) =
      Reading.words .program { reading with unsettled := some (flag, some value) } rest := by
  have awaits : reading.awaitsValue = true := by rw [Reading.awaitsValue, waits]
  rw [words_undashed (by rw [awaits]; rfl) undashed, waits]

/-- A switch is taken at once. -/
theorem switch_eq (notHelp : flag ≠ .help) (notVersion : flag ≠ .version) (reading : Reading)
    (grammar : Grammar) : reading.switch grammar flag =
      reading.settle.bind fun settled => settled.give flag "" := by
  unfold Reading.switch
  split
  · exact absurd rfl notHelp
  · exact absurd rfl notVersion
  · rfl

/-- One letter behind a dash is a switch. -/
theorem words_letter
    (named : programFlags.find? (fun flag => flag.short? == some letter) = some flag)
    (written : word.toList = ['-', letter]) (undashed : letter ≠ '-') (reading : Reading)
    (rest : List String) : Reading.words .program reading (word :: rest) =
      (reading.switch .program flag).bind fun next => Reading.words .program next rest := by
  have noCommand := ofWord?_dash (show word.toList.head? = some '-' by rw [written]; rfl)
  have letters : Reading.shorts .program reading [letter] = reading.switch .program flag := by
    simp only [Reading.shorts, Grammar.program, named]
    exact bind_pure _
  rw [Reading.words, noCommand, ite_self, written]
  split
  · rename_i command
    cases command
  · split
    · rename_i same
      cases same
      exact absurd rfl undashed
    · rename_i same
      cases same
      exact absurd rfl undashed
    · rename_i same
      cases same
      rw [letters]
      rfl
    · rename_i other
      exact absurd rfl (other letter [])
    · rename_i other _
      exact absurd rfl (other letter [])

/-! ## Readings -/

/-- A reading that comes to the given settings once its last flag is settled. -/
def ComesTo (reading : Reading) (settings : List Setting) : Prop :=
  reading.settle = .ok (taken settings)

theorem not_awaitsValue (comes : ComesTo reading settings) : reading.awaitsValue = false := by
  unfold ComesTo Reading.settle at comes
  unfold Reading.awaitsValue
  split at comes
  · rename_i settled
    rw [settled]
  · cases comes
  · rename_i settled
    rw [settled]

section Step

variable {reading : Reading} {setting : Setting} {settings : List Setting}

/-- Every setting has one of the flags of the program, and neither of the two that end a reading. -/
theorem flag_known (setting : Setting) :
    setting.flag ∈ programFlags ∧ setting.flag ≠ .help ∧ setting.flag ≠ .version := by
  cases setting with
  | root _ | linkStyle _ | timeout _ | noRibbon | verbose | quiet =>
    simp [Setting.flag, programFlags]

/-- A flag that has its value with it is one more setting. -/
theorem words_joined_setting (comes : ComesTo reading settings) (fits : setting.Fits limit)
    (fresh : setting.flag ∉ settings.map Setting.flag) (takes : setting.flag.value?.isSome)
    (front : word.toList = '-' :: '-' :: (setting.flag.long.toList ++ ['='])) (rest : List String) :
    Reading.words .program reading ((word ++ setting.value) :: rest) =
      Reading.words .program (taken (settings ++ [setting])) rest := by
  have known := (flag_known setting).1
  have written : (word ++ setting.value).toList =
      '-' :: '-' :: (setting.flag.long.toList ++ '=' :: setting.value.toList) := by
    simp [String.toList_append, front]
  rw [words_joined known written, long_with_value known takes, comes]
  exact congrArg (Except.bind · _) (give_taken fits fresh)

/-- A flag and its value in the word behind it are one more setting, though it is not settled yet. -/
theorem words_apart_setting (comes : ComesTo reading settings) (fits : setting.Fits limit)
    (fresh : setting.flag ∉ settings.map Setting.flag) (takes : setting.flag.value?.isSome)
    (written : word.toList = '-' :: '-' :: setting.flag.long.toList)
    (undashed : setting.value.toList.head? ≠ some '-') (rest : List String) :
    ∃ next, ComesTo next (settings ++ [setting]) ∧
      Reading.words .program reading (word :: setting.value :: rest) =
        Reading.words .program next rest := by
  -- The value is checked only when the next word settles the flag, which `ComesTo` looks ahead to.
  let waiting : Reading := { taken settings with unsettled := some (setting.flag, none) }
  have waits : waiting.unsettled = some (setting.flag, none) := rfl
  have known := (flag_known setting).1
  refine ⟨{ waiting with unsettled := some (setting.flag, some setting.value) },
    give_taken fits fresh, ?_⟩
  rw [words_long known written, long_without_value known takes comes]
  exact words_value waits undashed rest

/-- A switch is one more setting. -/
theorem switch_setting (comes : ComesTo reading settings) (fits : setting.Fits limit)
    (fresh : setting.flag ∉ settings.map Setting.flag) (bare : setting.flag.value? = none) :
    reading.switch .program setting.flag = .ok (taken (settings ++ [setting])) := by
  obtain ⟨_, notHelp, notVersion⟩ := flag_known setting
  have nothing : setting.value = "" := by
    cases setting with
    | root _ | linkStyle _ | timeout _ => cases bare
    | noRibbon | verbose | quiet => rfl
  rw [switch_eq notHelp notVersion, comes, ← nothing]
  exact give_taken fits fresh

/-- A switch by its name. -/
theorem words_switch_setting (comes : ComesTo reading settings) (fits : setting.Fits limit)
    (fresh : setting.flag ∉ settings.map Setting.flag) (bare : setting.flag.value? = none)
    (written : word.toList = '-' :: '-' :: setting.flag.long.toList) (rest : List String) :
    Reading.words .program reading (word :: rest) =
      Reading.words .program (taken (settings ++ [setting])) rest := by
  have known := (flag_known setting).1
  rw [words_long known written, long_switch known bare]
  exact congrArg (Except.bind · _) (switch_setting comes fits fresh bare)

/-- A switch by its letter. -/
theorem words_letter_setting (comes : ComesTo reading settings) (fits : setting.Fits limit)
    (fresh : setting.flag ∉ settings.map Setting.flag) (bare : setting.flag.value? = none)
    (named : programFlags.find? (fun flag => flag.short? == some letter) = some setting.flag)
    (undashed : letter ≠ '-') (written : word.toList = ['-', letter]) (rest : List String) :
    Reading.words .program reading (word :: rest) =
      Reading.words .program (taken (settings ++ [setting])) rest := by
  rw [words_letter named written undashed]
  exact congrArg (Except.bind · _) (switch_setting comes fits fresh bare)

/-- In each of its spellings, a setting that fits and is new is read as one more. -/
theorem words_setting (comes : ComesTo reading settings) (fits : setting.Fits limit)
    (fresh : setting.flag ∉ settings.map Setting.flag) (spelling : Spelling) (rest : List String) :
    ∃ next, ComesTo next (settings ++ [setting]) ∧
      Reading.words .program reading (setting.words spelling ++ rest) =
        Reading.words .program next rest := by
  have settled : ComesTo (taken (settings ++ [setting])) (settings ++ [setting]) := rfl
  cases setting with
  | root directory =>
    have name : "--root".toList = '-' :: '-' :: Flag.root.long.toList := by decide
    have front : "--root=".toList = '-' :: '-' :: (Flag.root.long.toList ++ ['=']) := by decide
    cases spelling with
    | wide => exact words_apart_setting comes fits fresh rfl name fits.2 rest
    | close => exact ⟨_, settled, words_joined_setting comes fits fresh rfl front rest⟩
  | linkStyle style =>
    have name : "--link-style".toList = '-' :: '-' :: Flag.linkStyle.long.toList := by decide
    have front : "--link-style=".toList = '-' :: '-' :: (Flag.linkStyle.long.toList ++ ['=']) := by
      decide
    have undashed : (styleWord style).toList.head? ≠ some '-' := by cases style <;> decide
    cases spelling with
    | wide => exact words_apart_setting comes fits fresh rfl name undashed rest
    | close => exact ⟨_, settled, words_joined_setting comes fits fresh rfl front rest⟩
  | timeout seconds =>
    have name : "--timeout".toList = '-' :: '-' :: Flag.timeout.long.toList := by decide
    have front : "--timeout=".toList = '-' :: '-' :: (Flag.timeout.long.toList ++ ['=']) := by
      decide
    obtain ⟨_, _, read⟩ := id fits
    cases spelling with
    | wide =>
      exact words_apart_setting comes fits fresh rfl name (head?_ne_dash_of_readNumber read) rest
    | close => exact ⟨_, settled, words_joined_setting comes fits fresh rfl front rest⟩
  | noRibbon =>
    have name : "--no-ribbon".toList = '-' :: '-' :: Flag.noRibbon.long.toList := by decide
    exact ⟨_, settled, words_switch_setting comes fits fresh rfl name rest⟩
  | verbose =>
    have name : "--verbose".toList = '-' :: '-' :: Flag.verbose.long.toList := by decide
    cases spelling with
    | wide => exact ⟨_, settled, words_switch_setting comes fits fresh rfl name rest⟩
    | close =>
      have letter : programFlags.find? (fun flag => flag.short? == some 'v') = some .verbose := by
        decide
      exact ⟨_, settled, words_letter_setting comes fits fresh rfl letter (by decide) rfl rest⟩
  | quiet =>
    have name : "--quiet".toList = '-' :: '-' :: Flag.quiet.long.toList := by decide
    cases spelling with
    | wide => exact ⟨_, settled, words_switch_setting comes fits fresh rfl name rest⟩
    | close =>
      have letter : programFlags.find? (fun flag => flag.short? == some 'q') = some .quiet := by
        decide
      exact ⟨_, settled, words_letter_setting comes fits fresh rfl letter (by decide) rfl rest⟩

end Step

/-- Settings with different flags are all understood, in the order in which they are given. -/
theorem words_settings {given : List (Setting × Spelling)} (comes : ComesTo reading before)
    (fits : ∀ entry ∈ given, entry.1.Fits limit)
    (distinct : ((before ++ given.map Prod.fst).map Setting.flag).Nodup) (rest : List String) :
    ∃ next, ComesTo next (before ++ given.map Prod.fst) ∧
      Reading.words .program reading
          (given.flatMap (fun entry => entry.1.words entry.2) ++ rest) =
        Reading.words .program next rest := by
  -- What has been read so far varies: each setting is one more before those that follow.
  induction given generalizing reading before with
  | nil => exact ⟨reading, by simpa using comes, rfl⟩
  | cons entry given ih =>
    obtain ⟨setting, spelling⟩ := entry
    have regroup : before ++ ((setting, spelling) :: given).map Prod.fst =
        before ++ [setting] ++ given.map Prod.fst := by simp
    rw [regroup] at distinct ⊢
    have fresh : setting.flag ∉ before.map Setting.flag := by
      rw [List.map_append, List.nodup_append, List.map_append, List.nodup_append] at distinct
      exact fun member => distinct.1.2.2 _ member _ List.mem_cons_self rfl
    obtain ⟨next, further, read⟩ := words_setting comes (fits _ List.mem_cons_self) fresh spelling
      (given.flatMap (fun entry => entry.1.words entry.2) ++ rest)
    obtain ⟨last, all, others⟩ := ih further
      (fun other member => fits other (List.mem_cons_of_mem _ member)) distinct
    refine ⟨last, all, ?_⟩
    rw [List.flatMap_cons, List.append_assoc, read, others]

/-! ## Asking for a page -/

/-- The command for a page, and the page. -/
theorem words_render (comes : ComesTo reading settings) (rest : List String) :
    Reading.words .program reading ("render" :: rest) = .ok (reading, some (.render, rest)) := by
  have command : Command.ofWord? "render" = some .render := by decide
  rw [Reading.words, not_awaitsValue comes, command]
  rfl

theorem readTask_render (undashed : page.toList.head? ≠ some '-') :
    readTask .render [page] = .ok (.render page) := by
  have read : Reading.words (.ofCommand .render) .empty [page] =
      .ok ({ Reading.empty with word := some page }, none) := words_undashed rfl undashed []
  simp only [readTask, read]
  rfl

/-- Two switches that exclude each other are both there, or nobody complains. -/
theorem exclude_eq_ok (apart : ¬(a ∈ settings.map Setting.flag ∧ b ∈ settings.map Setting.flag)) :
    (taken settings).exclude a b = .ok () := by
  have allowed : ¬((taken settings).has a && (taken settings).has b) = true := by
    rw [Bool.and_eq_true, has_taken_iff, has_taken_iff]
    exact apart
  unfold Reading.exclude
  split
  · exact if_neg allowed
  · rfl

/-- Settings as they stand before a command, each in a spelling of its own: they fit, no flag
repeats, and no run is to be both loud and quiet. -/
structure Prelude (limit : Nat) where
  entries : List (Setting × Spelling)
  fits : ∀ entry ∈ entries, entry.1.Fits limit
  distinct : ((entries.map Prod.fst).map Setting.flag).Nodup
  apart : ¬(Flag.verbose ∈ (entries.map Prod.fst).map Setting.flag ∧
    Flag.quiet ∈ (entries.map Prod.fst).map Setting.flag)

namespace Prelude

/-- The settings without their spellings. -/
def settings (prelude : Prelude limit) : List Setting := prelude.entries.map Prod.fst

/-- The words of the settings, one after another. -/
def words (prelude : Prelude limit) : List String :=
  prelude.entries.flatMap fun (setting, spelling) => setting.words spelling

/-- What the settings ask for, together with the command behind them. -/
def invocation (prelude : Prelude limit) (task : Task) : Invocation :=
  (taken prelude.settings).invocation task

end Prelude

/-- Settings before the command for a page are understood as what they say, and the page as the one
that is asked for. -/
theorem readCommandLine_render (prelude : Prelude limit) (undashed : page.toList.head? ≠ some '-') :
    readCommandLine none (prelude.words ++ ["render", page]) =
      .ok (prelude.invocation (.render page)) := by
  have empty : ComesTo .empty [] := rfl
  obtain ⟨reading, comes, read⟩ := words_settings empty prelude.fits prelude.distinct
    ["render", page]
  have settles : reading.settle = .ok (taken prelude.settings) := comes
  have told : Reading.words .program .empty (prelude.words ++ ["render", page]) =
      .ok (reading, some (.render, [page])) := by
    rw [← words_render comes]
    exact read
  have allowed : (taken prelude.settings).exclude .verbose .quiet = .ok () :=
    exclude_eq_ok prelude.apart
  have task := readTask_render undashed
  rw [readCommandLine, told]
  simp only [bind, Except.bind, Option.mapM_some, task, settles, Reading.withRoot, allowed]
  rfl

/-! ## What is asked for -/

/-- A run on such a command line renders the page, in the way that the settings ask for. -/
theorem perform_render (prelude : Prelude limit) (undashed : page.toList.head? ≠ some '-')
    (fragmentsAt : String → Fragments) (network : Fetch.Network) :
    let invocation := prelude.invocation (.render page)
    perform none fragmentsAt network (prelude.words ++ ["render", page]) =
      invocation.render page (fragmentsAt invocation.root) network := by
  intro invocation
  rw [perform, readCommandLine_render prelude undashed]
  rfl

/-- A timeout that is read from settings has been given. -/
theorem mem_of_value?_timeout (read : (taken settings).value? .timeout = some text) :
    Setting.timeout text ∈ settings := by
  obtain ⟨_, _, split, _⟩ := List.lookup_eq_some_iff.mp read
  have member : (Flag.timeout, text) ∈ (taken settings).given := by simp [split]
  obtain ⟨setting, given, same⟩ := List.mem_map.mp member
  obtain ⟨timeout, value⟩ := Prod.mk.inj same
  cases setting with
  | timeout seconds =>
    cases value
    exact given
  | root _ | linkStyle _ | noRibbon | verbose | quiet => cases timeout

/-- The timeout of a run is below every limit that its settings keep, if the usual one is. -/
theorem timeout_lt (prelude : Prelude limit) (usual : defaultTimeout < limit) (task : Task) :
    (prelude.invocation task).timeout < limit := by
  unfold Prelude.invocation Reading.invocation
  split
  · rename_i seconds read
    obtain ⟨text, given, number⟩ := Option.map_eq_some_iff.mp read
    obtain ⟨entry, member, same⟩ := List.mem_map.mp (mem_of_value?_timeout given)
    have fits := prelude.fits entry member
    rw [same] at fits
    obtain ⟨n, small, others⟩ := fits
    rw [others] at number
    cases number
    exact small
  · exact usual

end Handbook.CommandLines
