import CulpritFinding.Flake.Name
import CulpritFinding.Proofs.Text.Removal

namespace CulpritFinding

namespace FlakeName

open Pattern

def IsParameter (mark : List Char) : Prop :=
  ∃ digits, mark = '/' :: digits ∧ digits ≠ [] ∧ ∀ d ∈ digits, isDecimalDigit d = true

def parameterParts : List Pattern := [text "/", oneOrMore (.one isDecimalDigit)]

theorem parameterSuffix_eq : parameterSuffix = toEnd parameterParts := rfl

theorem reads_parameterParts {mark : List Char} :
    (inOrder parameterParts).Reads mark ↔ IsParameter mark := by
  constructor
  · rintro ⟨_, _, rfl, slash, digits, _, rfl, number, rfl⟩
    cases reads_text.mp slash
    exact ⟨digits, by simp, reads_oneOrMore_one.mp number⟩
  · rintro ⟨digits, rfl, number⟩
    exact ⟨['/'], digits, rfl, reads_text.mpr rfl, digits, [], (List.append_nil digits).symm,
      reads_oneOrMore_one.mpr number, rfl⟩

theorem IsParameter.opens {mark : List Char} (parameter : IsParameter mark) :
    ∃ rest, mark = '/' :: rest ∧ '/' ∉ rest := by
  obtain ⟨digits, rfl, -, number⟩ := parameter
  exact ⟨digits, rfl, fun member => absurd (number _ member) (by decide)⟩

theorem IsParameter.no_dot {mark : List Char} (parameter : IsParameter mark) : '.' ∉ mark := by
  obtain ⟨digits, rfl, -, number⟩ := parameter
  rw [List.mem_cons, not_or]
  exact ⟨by decide, fun member => absurd (number _ member) (by decide)⟩

theorem removeParameter_cases (test : List Char) :
    (∃ gone, test = parameterSuffix.removeFirst test ++ gone ∧ IsParameter gone) ∨
    (parameterSuffix.removeFirst test = test ∧ ¬ EndsIn IsParameter test) := by
  have plain : ∀ pattern ∈ parameterParts, pattern.plain = true := by decide
  have cases := removeFirst_toEnd_cases plain test
  rw [← parameterSuffix_eq, EndsIn.congr @reads_parameterParts] at cases
  simpa only [reads_parameterParts] using cases

theorem parameterSuffix_strips : parameterSuffix.Strips IsParameter where
  stays bare := by
    rcases removeParameter_cases _ with ⟨gone, whole, parameter⟩ | ⟨stays, -⟩
    · exact absurd ⟨_, gone, whole, parameter⟩ bare
    · exact stays
  shortens marked := by
    rcases removeParameter_cases _ with ⟨gone, whole, parameter⟩ | ⟨-, bare⟩
    · obtain ⟨rest, rfl, -⟩ := parameter.opens
      exact ⟨'/' :: rest, List.cons_ne_nil _ _, whole⟩
    · exact absurd marked bare

/-- Of two parameters, the first one stays. -/
theorem parameter_left_iff (test : List Char) :
    EndsIn IsParameter (parameterSuffix.removeFirst test) ↔ EndsIn (Twice IsParameter) test := by
  rcases removeParameter_cases test with ⟨gone, whole, parameter⟩ | ⟨stays, bare⟩
  · rw [whole, endsIn_twice_iff IsParameter.opens parameter, ← whole]
  · rw [stays]
    refine iff_of_false bare ?_
    rintro ⟨front, _, rfl, first, second, rfl, -, parameter⟩
    exact bare ⟨front ++ first, second, (List.append_assoc ..).symm, parameter⟩

theorem endsIn_parameter_after_dot (front back : List Char) :
    EndsIn IsParameter (front ++ '.' :: back) ↔ EndsIn IsParameter back := by
  have apart : ∀ begun rest, begun ≠ [] → begun <:+ front ++ ['.'] →
      ¬ IsParameter (begun ++ rest) := by
    rintro begun rest something ⟨before, whole⟩ parameter
    refine parameter.no_dot (List.mem_append_left rest ?_)
    obtain ⟨begun, last, rfl⟩ := (List.eq_nil_or_concat' begun).resolve_left something
    rw [← List.append_assoc] at whole
    rw [(List.append_inj' whole rfl).2]
    simp
  have split : front ++ '.' :: back = (front ++ ['.']) ++ back := by simp
  rw [split, endsIn_append_iff apart]

/-- A name that starts with a word and a slash before the word and the dot of its suite. -/
def IsInstantiated (name : List Char) : Prop :=
  ∃ word suite rest, name = word ++ '/' :: (suite ++ '.' :: rest) ∧
    (word ≠ [] ∧ ∀ c ∈ word, isWord c = true) ∧ (suite ≠ [] ∧ ∀ c ∈ suite, isWord c = true)

def withoutInstantiation (name : List Char) : List Char :=
  instantiation.replaceFirst (fun m => (m.group? 1).getD []) name

def suiteName : Pattern := .seq (oneOrMore (.one isWord)) (text ".")

theorem instantiation_eq : instantiation = .seq .atStart
    (.seq (oneOrMore (.one isWord)) (.seq (text "/") (.seq (.group 1 suiteName) .nothing))) := rfl

theorem matches_instantiation {name : List Char} {q : Progress}
    (matched : (Pattern.seq (oneOrMore (.one isWord))
      (.seq (text "/") (.seq (.group 1 suiteName) .nothing))).Matches ⟨Spot.start name, []⟩ q) :
    ∃ word suite rest, name = word ++ '/' :: (suite ++ '.' :: rest) ∧
      (word ≠ [] ∧ ∀ c ∈ word, isWord c = true) ∧ (suite ≠ [] ∧ ∀ c ∈ suite, isWord c = true) ∧
      q.kept = [(1, suite ++ ['.'])] ∧ q.spot.rest = rest := by
  cases matched with
  | seq first more =>
    cases more with
    | seq second more =>
      cases more with
      | seq third none_ =>
        cases none_
        cases third with
        | group inside =>
          obtain ⟨word, reads, past⟩ := first.reads rfl rfl
          obtain ⟨slash, reads', past'⟩ := second.reads (plain_text "/") past.counted
          obtain ⟨_, ⟨suite, _, rfl, reads'', dot⟩, past''⟩ := inside.reads rfl past'.counted
          cases reads_text.mp reads'
          cases reads_text.mp dot
          refine ⟨word, suite, _, ?_, reads_oneOrMore_one.mp reads, reads_oneOrMore_one.mp reads'',
            ?_, rfl⟩
          · have whole : name = word ++ _ := past.rest
            rw [whole, past'.rest, past''.rest]
            simp
          · dsimp only
            rw [past''.taken past'.counted, past''.kept, past'.kept, past.kept]
            rfl

theorem IsInstantiated.exists_matches {name : List Char} (instantiated : IsInstantiated name) :
    ∃ q, (Pattern.seq (oneOrMore (.one isWord))
      (.seq (text "/") (.seq (.group 1 suiteName) .nothing))).Matches ⟨Spot.start name, []⟩ q := by
  obtain ⟨word, suite, rest, rfl, inside, named⟩ := instantiated
  have slash : (text "/").Reads ['/'] := reads_text.mpr rfl
  have dotted : suiteName.Reads (suite ++ ['.']) :=
    ⟨suite, ['.'], rfl, reads_oneOrMore_one.mpr named, reads_text.mpr rfl⟩
  have split : suite ++ '.' :: rest = suite ++ ['.'] ++ rest := by simp
  rw [split]
  obtain ⟨p, first, ahead, counted⟩ := (reads_oneOrMore_one.mpr inside).exists_matches
    ⟨Spot.start (word ++ '/' :: (suite ++ ['.'] ++ rest)), []⟩ rfl rfl
  obtain ⟨p', second, ahead', counted'⟩ := slash.exists_matches p counted ahead
  obtain ⟨p'', third, -⟩ := dotted.exists_matches p' counted' ahead'
  exact ⟨_, .seq first (.seq second (.seq (.group third) .nothing))⟩

theorem withoutInstantiation_cases (name : List Char) :
    (∃ word suite rest, name = word ++ '/' :: (suite ++ '.' :: rest) ∧
      (word ≠ [] ∧ ∀ c ∈ word, isWord c = true) ∧ (suite ≠ [] ∧ ∀ c ∈ suite, isWord c = true) ∧
      withoutInstantiation name = suite ++ '.' :: rest) ∨
    (withoutInstantiation name = name ∧ ¬ IsInstantiated name) := by
  unfold withoutInstantiation
  rw [instantiation_eq, replaceFirst_atStart]
  cases found : matchAt? _ (Spot.start name) with
  | none =>
    refine .inr ⟨rfl, fun instantiated => ?_⟩
    exact (matchAt?_eq_none_iff [] name).mp found instantiated.exists_matches
  | some m =>
    obtain ⟨q, matched, groups, after⟩ := exists_matches_of_matchAt? [] name found
    obtain ⟨word, suite, rest, whole, inside, named, kept, left⟩ := matches_instantiation matched
    refine .inl ⟨word, suite, rest, whole, inside, named, ?_⟩
    have group : m.group? 1 = some (suite ++ ['.']) := by
      unfold Match.group?
      rw [groups, kept]
      rfl
    rw [Option.elim_some, group, after, left]
    simp

theorem endsIn_parameter_withoutInstantiation (name : List Char) :
    EndsIn IsParameter (withoutInstantiation name) ↔ EndsIn IsParameter name := by
  rcases withoutInstantiation_cases name with
    ⟨word, suite, rest, rfl, -, -, replaced⟩ | ⟨stays, -⟩
  · have split : word ++ '/' :: (suite ++ '.' :: rest) = word ++ '/' :: suite ++ '.' :: rest := by
      simp
    rw [replaced, split, endsIn_parameter_after_dot, endsIn_parameter_after_dot]
  · rw [stays]

theorem length_withoutInstantiation_le (name : List Char) :
    (withoutInstantiation name).length ≤ name.length := by
  rcases withoutInstantiation_cases name with
    ⟨word, suite, rest, rfl, -, -, replaced⟩ | ⟨stays, -⟩
  · rw [replaced]
    simp only [List.length_append, List.length_cons]
    omega
  · rw [stays]

theorem not_isInstantiated (name : List Char) : ¬ IsInstantiated (withoutInstantiation name) := by
  rcases withoutInstantiation_cases name with
    ⟨_, suite, rest, -, -, ⟨-, named⟩, replaced⟩ | ⟨stays, bare⟩
  · rintro ⟨word, _, _, whole, ⟨-, inside⟩, -⟩
    rw [replaced] at whole
    have first (c : Char) (apart : isWord c = false) (front back : List Char)
        (words : ∀ d ∈ front, isWord d = true) :
        (front ++ c :: back).dropWhile isWord = c :: back := by
      rw [List.dropWhile_append_of_pos words]
      exact List.dropWhile_cons_of_neg (Bool.eq_false_iff.mp apart)
    have heads := congrArg (List.dropWhile isWord) whole
    rw [first '.' (by decide +kernel) suite _ named, first '/' (by decide +kernel) word _ inside]
      at heads
    exact absurd (List.cons.inj heads).1 (by decide)
  · rwa [stays]

theorem withoutInstantiation_of_bare {name : List Char} (bare : ¬ IsInstantiated name) :
    withoutInstantiation name = name := by
  rcases withoutInstantiation_cases name with
    ⟨word, suite, rest, whole, inside, named, -⟩ | ⟨stays, -⟩
  · exact absurd ⟨word, suite, rest, whole, inside, named⟩ bare
  · exact stays

def casePrefix : Pattern := anyText ["PRE_", "MANUAL_", "DISABLED_", "FLAKY_"]

theorem casePrefixes_eq : casePrefixes = .seq .atStart (oneOrMore casePrefix) := rfl

def withoutCaseMarks (name : List Char) : List Char :=
  match splitAtLast? '.' name with
  | some (suite, case) => suite ++ '.' :: casePrefixes.removeFirst case
  | none => casePrefixes.removeFirst name

theorem ofTest_eq (test : List Char) : ofTest test =
    withoutCaseMarks (withoutInstantiation (parameterSuffix.removeFirst test)) := rfl

structure Parted (front case : List Char) : Prop where
  dotted : front = [] ∨ ∃ suite, front = suite ++ ['.']
  noDot : '.' ∉ case
  unmarked : casePrefixes.removeFirst case = case

theorem removeCasePrefixes (case : List Char) :
    ∃ gone, case = gone ++ casePrefixes.removeFirst case ∧ '/' ∉ gone ∧
      casePrefixes.removeFirst (casePrefixes.removeFirst case) = casePrefixes.removeFirst case := by
  rw [casePrefixes_eq]
  have plain : casePrefix.plain = true := by decide +kernel
  obtain ⟨gone, whole, apart, bare⟩ := removeFirst_repeated plain (by decide +kernel) case
  exact ⟨gone, whole, apart '/' (by decide +kernel), removeFirst_repeated_of_bare plain bare⟩

theorem withoutCaseMarks_parts (name : List Char) :
    ∃ front gone case, name = front ++ (gone ++ case) ∧ withoutCaseMarks name = front ++ case ∧
      '/' ∉ gone ∧ Parted front case := by
  by_cases member : '.' ∈ name
  · obtain ⟨suite, back, rfl, apart⟩ := exists_last_separator member
    obtain ⟨gone, whole, slashless, unmarked⟩ := removeCasePrefixes back
    refine ⟨suite ++ ['.'], gone, casePrefixes.removeFirst back, ?_, ?_, slashless,
      .inr ⟨suite, rfl⟩, ?_, unmarked⟩
    · rw [← whole]
      simp
    · unfold withoutCaseMarks
      rw [splitAtLast?_append apart]
      simp
    · exact fun left => apart (whole ▸ List.mem_append_right gone left)
  · obtain ⟨gone, whole, slashless, unmarked⟩ := removeCasePrefixes name
    refine ⟨[], gone, casePrefixes.removeFirst name, whole, ?_, slashless, .inl rfl, ?_, unmarked⟩
    · unfold withoutCaseMarks
      rw [splitAtLast?_of_not_mem member]
      rfl
    · exact fun left => member (whole ▸ List.mem_append_right gone left)

theorem Parted.withoutCaseMarks {front case : List Char} (parted : Parted front case) :
    withoutCaseMarks (front ++ case) = front ++ case := by
  unfold FlakeName.withoutCaseMarks
  rcases parted.dotted with rfl | ⟨suite, rfl⟩
  · rw [List.nil_append, splitAtLast?_of_not_mem parted.noDot]
    exact parted.unmarked
  · rw [List.append_assoc, List.singleton_append, splitAtLast?_append parted.noDot]
    simp [parted.unmarked]

theorem length_withoutCaseMarks_le (name : List Char) :
    (withoutCaseMarks name).length ≤ name.length := by
  obtain ⟨front, gone, case, whole, parts, -⟩ := withoutCaseMarks_parts name
  rw [parts, whole]
  simp only [List.length_append]
  omega

theorem endsIn_parameter_withoutCaseMarks (name : List Char) :
    EndsIn IsParameter (withoutCaseMarks name) ↔ EndsIn IsParameter name := by
  obtain ⟨front, gone, case, whole, parts, slashless, parted⟩ := withoutCaseMarks_parts name
  have apart : ∀ begun rest, begun ≠ [] → begun <:+ gone → ¬ IsParameter (begun ++ rest) := by
    intro begun rest something inside parameter
    obtain ⟨c, begun, rfl⟩ := List.exists_cons_of_ne_nil something
    obtain ⟨digits, slash, -⟩ := parameter.opens
    cases (List.cons.inj slash).1
    exact slashless (inside.subset List.mem_cons_self)
  rw [parts, whole]
  rcases parted.dotted with rfl | ⟨suite, rfl⟩
  · rw [List.nil_append, List.nil_append, endsIn_append_iff apart]
  · simp only [List.append_assoc, List.singleton_append, endsIn_parameter_after_dot,
      endsIn_append_iff apart]

theorem not_isInstantiated_withoutCaseMarks {name : List Char} (bare : ¬ IsInstantiated name) :
    ¬ IsInstantiated (withoutCaseMarks name) := by
  obtain ⟨front, gone, case, whole, parts, -, parted⟩ := withoutCaseMarks_parts name
  rintro ⟨word, suite, rest, whole', inside, named⟩
  rw [parts] at whole'
  have split : word ++ '/' :: (suite ++ '.' :: rest) = (word ++ '/' :: suite ++ ['.']) ++ rest := by
    simp
  rw [split] at whole'
  -- The dot of the instantiation is not in the case, so all up to it is in front of the case.
  have before : ∃ between, front = word ++ '/' :: suite ++ ['.'] ++ between := by
    rcases List.append_eq_append_iff.mp whole' with ⟨behind, dotted, rfl⟩ | ⟨between, rfl, -⟩
    · rcases List.eq_nil_or_concat' behind with rfl | ⟨behind, last, rfl⟩
      · exact ⟨[], by rw [dotted]; simp⟩
      · rw [← List.append_assoc] at dotted
        cases (List.append_inj' dotted rfl).2
        exact absurd parted.noDot (by simp)
    · exact ⟨between, rfl⟩
  obtain ⟨between, rfl⟩ := before
  refine bare ⟨word, suite, between ++ (gone ++ case), ?_, inside, named⟩
  rw [whole]
  simp

theorem length_ofTest_le (test : List Char) : (ofTest test).length ≤ test.length :=
  calc (ofTest test).length
      ≤ (withoutInstantiation (parameterSuffix.removeFirst test)).length :=
        length_withoutCaseMarks_le _
    _ ≤ (parameterSuffix.removeFirst test).length := length_withoutInstantiation_le _
    _ ≤ test.length := (parameterSuffix_strips.kept test).length_le

theorem endsIn_parameter_ofTest (test : List Char) :
    EndsIn IsParameter (ofTest test) ↔ EndsIn (Twice IsParameter) test := by
  rw [ofTest_eq, endsIn_parameter_withoutCaseMarks, endsIn_parameter_withoutInstantiation,
    parameter_left_iff]

theorem ofTest_ofTest_iff (test : List Char) :
    ofTest (ofTest test) = ofTest test ↔ ¬ EndsIn (Twice IsParameter) test := by
  rw [← endsIn_parameter_ofTest]
  constructor
  · intro same marked
    have shorter := parameterSuffix_strips.length_lt marked
    have less := length_withoutCaseMarks_le
      (withoutInstantiation (parameterSuffix.removeFirst (ofTest test)))
    have less' := length_withoutInstantiation_le (parameterSuffix.removeFirst (ofTest test))
    rw [← ofTest_eq, same] at less
    omega
  · intro unmarked
    have bare : ¬ IsInstantiated (ofTest test) :=
      not_isInstantiated_withoutCaseMarks (not_isInstantiated _)
    rw [ofTest_eq (ofTest test), parameterSuffix_strips.stays unmarked,
      withoutInstantiation_of_bare bare]
    obtain ⟨front, gone, case, -, parts, -, parted⟩ :=
      withoutCaseMarks_parts (withoutInstantiation (parameterSuffix.removeFirst test))
    rw [← ofTest_eq] at parts
    rw [parts, parted.withoutCaseMarks]

end FlakeName

end CulpritFinding
