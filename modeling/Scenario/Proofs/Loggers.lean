import Mathlib.Data.List.Basic
import Scenario.Journal

/-! # From a logger to the root

A record is written only if it comes to the root, from parent to parent. Which way it takes depends
on the loggers that there are. But a logger whose name goes on behind the root with one dot alone
comes to the root whatever other loggers there are (`reaches_of_single`): the search for a parent
finds the root at last, and all names that it may find before that are such names too. Behind two
dots the way may lead past the root (`reaches_of_doubled`).

A logger stays with its answers while parents change. For the loggers that always come to the root
this makes no difference, because what they keep depends on the level of the root only, and all
answers are dropped when that is set (`Honest`).
-/

namespace Scenario.Journal

/-! ## Names -/

/-- The name of a logger goes on behind the root with two dots. -/
def Doubled (logger : String) : Prop := ∃ rest, logger = root ++ ".." ++ rest

theorem doubled_iff {logger : String} :
    Doubled logger ↔ (root ++ "..").toList <+: logger.toList := by
  constructor
  · rintro ⟨rest, rfl⟩
    exact ⟨rest.toList, by simp⟩
  · rintro ⟨rest, split⟩
    refine ⟨String.ofList rest, ?_⟩
    rw [← String.toList_inj, ← split]
    simp

instance (logger : String) : Decidable (Doubled logger) := decidable_of_iff _ doubled_iff.symm

/-- A logger is the root, or its name goes on behind the root with one dot. -/
def Single (logger : String) : Prop :=
  logger = root ∨ ∃ rest, logger = root ++ "." ++ rest ∧ rest.toList.head? ≠ some '.'

/-- The loggers of all names stand under the root. -/
theorem loggerName_under (name : String) :
    loggerName name = root ∨ ∃ rest, loggerName name = root ++ "." ++ rest := by
  unfold loggerName
  split
  · next under =>
    rcases Bool.or_eq_true_iff.1 under with same | under
    · exact .inl (of_decide_eq_true same)
    · obtain ⟨rest, split⟩ := List.isPrefixOf_iff_prefix.1 under
      refine .inr ⟨String.ofList rest, String.toList_injective ?_⟩
      rw [String.toList_append, String.toList_ofList, split]
  · exact .inr ⟨name, rfl⟩

theorem single_loggerName {name : String} (single : ¬Doubled (loggerName name)) :
    Single (loggerName name) := by
  rcases loggerName_under name with same | ⟨rest, same⟩
  · exact .inl same
  · refine .inr ⟨rest, same, ?_⟩
    intro dot
    obtain ⟨more, chars⟩ := List.head?_eq_some_iff.1 dot
    refine single ⟨String.ofList more, ?_⟩
    rw [same, ← String.toList_inj]
    simp [chars]

/-! ## Names that enclose others -/

theorem enclosing_of_ne {c : Char} (other : c ≠ '.') (front : List Char) :
    enclosing (c :: front) = enclosing front := by
  rw [enclosing]
  rintro last front ⟨⟩
  exact absurd rfl other

theorem enclosing_plain {front : List Char} (plain : '.' ∉ front) : enclosing front = [] := by
  induction front with
  | nil => rfl
  | cons c front ih =>
    rw [List.mem_cons, not_or] at plain
    rw [enclosing_of_ne (Ne.symm plain.1), ih plain.2]

section Enclosing

variable {base : List Char} (plain : '.' ∉ base)
include plain

theorem enclosing_dot (filled : base ≠ []) : enclosing ('.' :: base) = [base] := by
  obtain ⟨last, front, rfl⟩ := List.exists_cons_of_ne_nil filled
  rw [enclosing, enclosing_plain (List.not_mem_of_not_mem_cons plain)]

/-- Behind one dot a name is enclosed by the base, and before that by names of its own sort. -/
theorem enclosing_single (filled : base ≠ []) {back : List Char}
    (single : back.getLast? ≠ some '.') :
    base ∈ enclosing (back ++ '.' :: base) ∧
      ∀ up ∈ enclosing (back ++ '.' :: base), up = base ∨
        ∃ less, up = less ++ '.' :: base ∧ less.getLast? ≠ some '.' := by
  induction back using enclosing.induct with
  | case1 last front ih =>
    have rest : (last :: front).getLast? ≠ some '.' := by simpa using single
    have further : front.getLast? ≠ some '.' := by
      cases front with
      | nil => simp
      | cons next front => simpa using rest
    obtain ⟨found, all⟩ := ih further
    rw [List.cons_append, List.cons_append, enclosing]
    refine ⟨List.mem_cons_of_mem _ found, ?_⟩
    intro up encloses
    rcases List.mem_cons.1 encloses with rfl | encloses
    · exact .inr ⟨last :: front, rfl, rest⟩
    · exact all up encloses
  | case2 c front notDot ih =>
    have other : c ≠ '.' := by
      rintro rfl
      cases front with
      | nil => simp at single
      | cons last front => exact notDot last front rfl rfl
    have further : front.getLast? ≠ some '.' := by
      cases front with
      | nil => simp
      | cons next front => simpa using single
    rw [List.cons_append, enclosing_of_ne other]
    exact ih further
  | case3 =>
    rw [List.nil_append, enclosing_dot plain filled]
    exact ⟨List.mem_singleton_self _, fun up encloses => .inl (List.mem_singleton.1 encloses)⟩

/-- Behind two dots the search stops there, if a name ends there and none in between is known. -/
theorem find?_enclosing_doubled {known : List Char → Bool} {back up : List Char}
    (stops : known ('.' :: '.' :: base) = true) (gap : known ('.' :: base) = false)
    (free : ∀ less, less ≠ [] → less.length < back.length →
      known (less ++ '.' :: '.' :: base) = false)
    (found : (enclosing (back ++ '.' :: '.' :: base)).find? known = some up) :
    up = '.' :: '.' :: base := by
  induction back using enclosing.induct with
  | case1 last front ih =>
    have skipped : known (last :: front ++ '.' :: '.' :: base) = false :=
      free (last :: front) (by simp) (by simp)
    rw [List.cons_append, List.cons_append, enclosing, ← List.cons_append,
      List.find?_cons_of_neg (by rw [skipped]; simp)] at found
    refine ih ?_ found
    intro less nonempty shorter
    exact free less nonempty (by simp only [List.length_cons]; omega)
  | case2 c front notDot ih =>
    by_cases dot : c = '.'
    · subst dot
      cases front with
      | nil =>
        rw [List.cons_append, List.nil_append, enclosing, List.find?_cons_of_pos stops] at found
        exact (Option.some.inj found).symm
      | cons last front => exact absurd rfl (notDot last front rfl)
    · rw [List.cons_append, enclosing_of_ne dot] at found
      refine ih ?_ found
      intro less nonempty shorter
      exact free less nonempty (by simp only [List.length_cons]; omega)
  | case3 =>
    rw [List.nil_append, enclosing, enclosing_plain plain,
      List.find?_cons_of_neg (by simp [gap])] at found
    cases found

end Enclosing

/-! ## The way to the root -/

section Reaches

variable {journal : Journal} {logger : String}

theorem plain_root : '.' ∉ root.toList.reverse ∧ root.toList.reverse ≠ [] := by decide

theorem parent?_eq (journal : Journal) (logger : String) :
    journal.parent? logger =
      ((enclosing logger.toList.reverse).find? fun up =>
        journal.loggers.contains (String.ofList up.reverse)).map
          fun up => String.ofList up.reverse := by
  rw [parent?, List.find?_map]
  rfl

theorem reaches_of_parent {up : String} (parent : journal.parent? logger = some up)
    (other : logger ≠ root) : journal.reaches logger = journal.reaches up := by
  rw [reaches, if_neg other]
  split
  · next none => cases none.symm.trans parent
  · next found => cases found.symm.trans parent; rfl

theorem reaches_of_orphan (orphan : journal.parent? logger = none) (other : logger ≠ root) :
    journal.reaches logger = false := by
  rw [reaches, if_neg other]
  split
  · rfl
  · next found => cases found.symm.trans orphan

/-- Behind one dot there is always a parent, which is the root or stands behind one dot too. -/
theorem exists_parent_of_single (rooted : root ∈ journal.loggers) {rest : String}
    (single : rest.toList.head? ≠ some '.') :
    ∃ up, journal.parent? (root ++ "." ++ rest) = some up ∧ Single up := by
  have chars : (root ++ "." ++ rest).toList.reverse =
      rest.toList.reverse ++ '.' :: root.toList.reverse := by simp
  have last : rest.toList.reverse.getLast? ≠ some '.' := by simpa using single
  obtain ⟨found, all⟩ := enclosing_single plain_root.1 plain_root.2 last
  rw [parent?_eq, chars]
  cases search : (enclosing (rest.toList.reverse ++ '.' :: root.toList.reverse)).find? fun up =>
      journal.loggers.contains (String.ofList up.reverse) with
  | none =>
    have missed := List.find?_eq_none.1 search _ found
    simp [rooted] at missed
  | some up =>
    refine ⟨_, rfl, ?_⟩
    rcases all up (List.mem_of_find?_eq_some search) with rfl | ⟨less, rfl, last⟩
    · exact .inl (by simp)
    · refine .inr ⟨String.ofList less.reverse, ?_, by simpa using last⟩
      simp [← String.toList_inj]

/-- The induction is on the length of the name, since parents have shorter ones. -/
theorem reaches_of_single (rooted : root ∈ journal.loggers) (single : Single logger) :
    journal.reaches logger = true := by
  induction size : logger.length using Nat.strongRecOn generalizing logger with
  | _ n ih =>
    by_cases same : logger = root
    · rw [reaches, if_pos same]
    · obtain rfl | ⟨rest, rfl, one⟩ := single
      · exact absurd rfl same
      · obtain ⟨up, parent, above⟩ := exists_parent_of_single rooted one
        rw [reaches_of_parent parent same]
        exact ih up.length (size ▸ length_parent? parent) above rfl

section Doubled

variable (stops : root ++ ".." ∈ journal.loggers) (gap : root ++ "." ∉ journal.loggers)
include stops gap

/-- Behind two dots, a logger whose name ends there is found before the root is. -/
theorem parent?_of_doubled {up : String} (doubled : Doubled logger)
    (free : ∀ other ∈ journal.loggers, other.length < logger.length → Doubled other →
      other = root ++ "..")
    (parent : journal.parent? logger = some up) : up = root ++ ".." := by
  obtain ⟨rest, rfl⟩ := doubled
  have chars : (root ++ ".." ++ rest).toList.reverse =
      rest.toList.reverse ++ '.' :: '.' :: root.toList.reverse := by simp
  have ended : String.ofList ('.' :: '.' :: root.toList.reverse).reverse = root ++ ".." := by decide
  have dotted : String.ofList ('.' :: root.toList.reverse).reverse = root ++ "." := by decide
  rw [parent?_eq, chars] at parent
  obtain ⟨found, search, rfl⟩ := Option.map_eq_some_iff.1 parent
  rw [find?_enclosing_doubled plain_root.1 ?_ ?_ ?_ search, ended]
  · rw [ended]
    simpa using stops
  · rw [dotted]
    simpa using gap
  · intro less filled shorter
    have name : String.ofList (less ++ '.' :: '.' :: root.toList.reverse).reverse =
        root ++ ".." ++ String.ofList less.reverse := by simp [← String.toList_inj]
    rw [name, Bool.eq_false_iff]
    intro known
    have same := free _ (by simpa using known) (by simpa [String.length_toList] using shorter)
      ⟨_, rfl⟩
    rw [← String.toList_inj] at same
    simp [filled] at same

/-- If there is a logger whose name ends in two dots behind the root, none whose name ends in one,
and otherwise none behind two dots, then a logger behind two dots does not come to the root. -/
theorem reaches_of_doubled (doubled : Doubled logger)
    (free : ∀ other ∈ journal.loggers, other.length < logger.length → Doubled other →
      other = root ++ "..") : journal.reaches logger = false := by
  have two : "..".length = 2 := rfl
  have apart {name : String} (doubled : Doubled name) : name ≠ root := by
    rintro rfl
    obtain ⟨rest, same⟩ := doubled
    have length := congrArg String.length same
    simp only [String.length_append] at length
    omega
  have ended : Doubled (root ++ "..") := ⟨"", by simp⟩
  have astray : journal.reaches (root ++ "..") = false := by
    cases parent : journal.parent? (root ++ "..") with
    | none => exact reaches_of_orphan parent (apart ended)
    | some up =>
      have shorter := length_parent? parent
      have same := parent?_of_doubled stops gap ended (fun other _ less more => ?_) parent
      · rw [same] at shorter
        exact absurd shorter (Nat.lt_irrefl _)
      · obtain ⟨rest, rfl⟩ := more
        simp only [String.length_append] at less
        omega
  cases parent : journal.parent? logger with
  | none => exact reaches_of_orphan parent (apart doubled)
  | some up =>
    rw [reaches_of_parent parent (apart doubled),
      parent?_of_doubled stops gap doubled free parent, astray]

end Doubled

end Reaches

/-! ## Records -/

section Records

variable (journal : Journal) (logger : String) (level : Int) (entry : Entry)

@[simp] theorem handlers_addLogger : (journal.addLogger logger).handlers = journal.handlers := by
  unfold addLogger
  split <;> rfl

@[simp] theorem level_addLogger : (journal.addLogger logger).level = journal.level := by
  unfold addLogger
  split <;> rfl

@[simp] theorem answers_addLogger : (journal.addLogger logger).answers = journal.answers := by
  unfold addLogger
  split <;> rfl

@[simp] theorem mem_loggers_addLogger {other : String} :
    other ∈ (journal.addLogger logger).loggers ↔ other ∈ journal.loggers ∨ other = logger := by
  unfold addLogger
  split
  · next known =>
    have there : logger ∈ journal.loggers := by simpa using known
    constructor
    · exact .inl
    · rintro (member | rfl)
      · exact member
      · exact there
  · simp

@[simp] theorem handlers_ask : (journal.ask logger level).1.handlers = journal.handlers := by
  unfold ask
  split <;> rfl

@[simp] theorem level_ask : (journal.ask logger level).1.level = journal.level := by
  unfold ask
  split <;> rfl

@[simp] theorem loggers_ask : (journal.ask logger level).1.loggers = journal.loggers := by
  unfold ask
  split <;> rfl

@[simp] theorem handlers_write : (journal.write entry).1.handlers = journal.handlers := by
  simp [write]

@[simp] theorem level_write : (journal.write entry).1.level = journal.level := by
  simp [write]

@[simp] theorem loggers_write :
    (journal.write entry).1.loggers = (journal.addLogger entry.logger).loggers := by
  simp [write]

variable {journal}

/-- The way to the root depends on the loggers alone. -/
theorem reaches_congr {other : Journal} (same : other.loggers = journal.loggers) :
    other.reaches logger = journal.reaches logger := by
  induction size : logger.length using Nat.strongRecOn generalizing logger with
  | _ n ih =>
    have parents : other.parent? logger = journal.parent? logger := by
      rw [parent?, same]
      rfl
    by_cases top : logger = root
    · rw [reaches, reaches, if_pos top, if_pos top]
    · cases parent : journal.parent? logger with
      | none => rw [reaches_of_orphan parent top, reaches_of_orphan (parents.trans parent) top]
      | some up =>
        rw [reaches_of_parent parent top, reaches_of_parent (parents.trans parent) top]
        exact ih up.length (size ▸ length_parent? parent) up rfl

theorem written_eq :
    (journal.write entry).2 =
      if ((journal.addLogger entry.logger).ask entry.logger entry.level).2 &&
          (journal.addLogger entry.logger).reaches entry.logger then
        writings journal.handlers entry
      else [] := by
  have way := reaches_congr entry.logger
    (loggers_ask (journal.addLogger entry.logger) entry.logger entry.level)
  simp only [write, way, handlers_ask, handlers_addLogger]

theorem written_of_astray
    (astray : (journal.addLogger entry.logger).reaches entry.logger = false) :
    (journal.write entry).2 = [] := by
  rw [written_eq, astray, Bool.and_false, if_neg Bool.false_ne_true]

/-- A record is written by all handlers whose level it has, or by none. -/
theorem written_eq_nil_or :
    (journal.write entry).2 = [] ∨ (journal.write entry).2 = writings journal.handlers entry := by
  rw [written_eq]
  split
  · exact .inr rfl
  · exact .inl rfl

end Records

/-! ## Answers -/

section Honest

variable {journal next : Journal} {logger : String}

/-- There is the root, and loggers that always come to it have given no answers but those that they
would give now. -/
structure Honest (journal : Journal) : Prop where
  rooted : root ∈ journal.loggers
  answers : ∀ logger level kept, Single logger →
    journal.answers.lookup (logger, level) = some kept → kept = journal.keeps logger level

theorem keeps_of_single (rooted : root ∈ journal.loggers) (single : Single logger) (level : Int) :
    journal.keeps logger level = (0 < level && journal.threshold ≤ level) := by
  rw [keeps, reaches_of_single rooted single, if_pos rfl]

theorem Honest.congr (honest : Honest journal) (rooted : root ∈ next.loggers)
    (level : next.level = journal.level) (answers : next.answers = journal.answers) :
    Honest next where
  rooted := rooted
  answers logger severity kept single given := by
    rw [answers] at given
    rw [honest.answers logger severity kept single given, keeps_of_single honest.rooted single,
      keeps_of_single rooted single, threshold, threshold, level]

theorem Honest.addLogger (honest : Honest journal) (logger : String) :
    Honest (journal.addLogger logger) :=
  honest.congr (by simp [honest.rooted]) (by simp) (by simp)

/-- A logger that always comes to the root answers as it would if it had not been asked before. -/
theorem Honest.ask_eq (honest : Honest journal) (single : Single logger) (level : Int) :
    (journal.ask logger level).2 = journal.keeps logger level := by
  unfold ask
  split
  · next kept given => exact honest.answers logger level kept single given
  · rfl

theorem Honest.ask (honest : Honest journal) (logger : String) (level : Int) :
    Honest (journal.ask logger level).1 := by
  unfold Journal.ask
  split
  · exact honest
  · have same (answers : List ((String × Int) × Bool)) (other : String) (severity : Int) :
        keeps { journal with answers } other severity = journal.keeps other severity := by
      have way : reaches { journal with answers } other = journal.reaches other :=
        reaches_congr other rfl
      rw [keeps, keeps, way]
      rfl
    refine ⟨honest.rooted, ?_⟩
    intro other severity kept single given
    rw [same]
    rw [List.lookup_cons] at given
    split at given
    · next here =>
      cases given
      cases eq_of_beq here
      rfl
    · exact honest.answers other severity kept single given

theorem Honest.write (honest : Honest journal) (entry : Entry) : Honest (journal.write entry).1 :=
  (honest.addLogger entry.logger).ask entry.logger entry.level

/-- What is written of a record by a logger that always comes to the root. -/
theorem Honest.written (honest : Honest journal) {entry : Entry} (single : Single entry.logger) :
    (journal.write entry).2 =
      if 0 < entry.level && journal.threshold ≤ entry.level then writings journal.handlers entry
      else [] := by
  have added := honest.addLogger entry.logger
  rw [written_eq, added.ask_eq single, reaches_of_single added.rooted single, Bool.and_true,
    keeps_of_single added.rooted single, threshold, level_addLogger]
  rfl

end Honest

end Scenario.Journal
