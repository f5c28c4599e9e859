import Mathlib.Data.List.Perm.Basic

/-!
# The command line of the launcher

The parsing loop of `prepare_paths` in `launcher.c`, on the arguments after
`--runtime-paths`.  A text is the list of the bytes before its NUL, so that
`text[0] == '\0'` says that it is empty.
-/

set_option autoImplicit false

namespace Skyuv.Runtime

/-! ## Functions of the source -/

def ascii (text : List Char) : List UInt8 := text.map fun char => char.toNat.toUInt8

def dash : UInt8 := 45

/-- `--`, after which the configuration may begin with a dash. -/
def dashes : List UInt8 := [dash, dash]

inductive RootOption where
  | install
  | log
  | run
  deriving DecidableEq, Repr

def RootOption.name : RootOption → List UInt8
  | .install => ascii ['-', '-', 'i', 'n', 's', 't', 'a', 'l', 'l', '-', 'r', 'o', 'o', 't']
  | .log => ascii ['-', '-', 'l', 'o', 'g', '-', 'r', 'o', 'o', 't']
  | .run => ascii ['-', '-', 'r', 'u', 'n', '-', 'r', 'o', 'o', 't']

/-- The variables of the loop; `none` is a null pointer. -/
structure Arguments where
  install : Option (List UInt8) := none
  logRoot : Option (List UInt8) := none
  runRoot : Option (List UInt8) := none
  config : Option (List UInt8) := none
  deriving DecidableEq, Repr

/-- The loop over the arguments that are left; `none` is `UV_EINVAL`. -/
def parseLoop : List (List UInt8) → Arguments → Option Arguments
  | [], given => some given
  | argument :: rest, given =>
      if argument = dashes then
        match rest with
        | [config] => some { given with config := some config }
        | _ => none
      else if argument.head? ≠ some dash then
        if rest = [] then some { given with config := some argument } else none
      else
        match rest with
        | [] => none
        | value :: rest =>
            if value = [] then none
            else if argument = RootOption.install.name ∧ given.install = none then
              parseLoop rest { given with install := some value }
            else if argument = RootOption.log.name ∧ given.logRoot = none then
              parseLoop rest { given with logRoot := some value }
            else if argument = RootOption.run.name ∧ given.runRoot = none then
              parseLoop rest { given with runRoot := some value }
            else none

/-- The loop and the check after it. -/
def parseArguments (arguments : List (List UInt8)) : Option Arguments :=
  match parseLoop arguments {} with
  | none => none
  | some given => if given.config = none ∨ given.config = some [] then none else some given

/-! ## The grammar -/

/-- The options with their values, in the order in which they stand, and the
configuration. -/
structure Grammar (arguments : List (List UInt8)) (pairs : List (RootOption × List UInt8))
    (config : List UInt8) : Prop where
  spelt : arguments = pairs.flatMap (fun pair => [pair.1.name, pair.2]) ++ [config] ∧
      config.head? ≠ some dash ∨
    arguments = pairs.flatMap (fun pair => [pair.1.name, pair.2]) ++ [dashes, config]
  once : (pairs.map Prod.fst).Nodup
  values : ∀ pair ∈ pairs, pair.2 ≠ []
  config : config ≠ []

namespace Arguments

def value (given : Arguments) : RootOption → Option (List UInt8)
  | .install => given.install
  | .log => given.logRoot
  | .run => given.runRoot

def set (given : Arguments) (option : RootOption) (value : List UInt8) : Arguments :=
  match option with
  | .install => { given with install := some value }
  | .log => { given with logRoot := some value }
  | .run => { given with runRoot := some value }

@[simp] theorem value_set (given : Arguments) (option other : RootOption) (value : List UInt8) :
    (given.set option value).value other =
      if other = option then some value else given.value other := by
  cases option <;> cases other <;> rfl

@[simp] theorem config_set (given : Arguments) (option : RootOption) (value : List UInt8) :
    (given.set option value).config = given.config := by
  cases option <;> rfl

/-- Arguments are known by what is set. -/
theorem ext_values {given other : Arguments} (config : given.config = other.config)
    (values : ∀ option value, given.value option = some value ↔ other.value option = some value) :
    given = other := by
  have same (option : RootOption) : given.value option = other.value option :=
    Option.ext fun value => values option value
  obtain ⟨install, logRoot, runRoot, _⟩ := given
  obtain ⟨_, _, _, _⟩ := other
  cases config
  cases same .install
  cases same .log
  cases same .run
  rfl

end Arguments

section Loop

variable {given result : Arguments} {argument config : List UInt8} {rest : List (List UInt8)}
  {pairs : List (RootOption × List UInt8)}

theorem name_dash (option : RootOption) : option.name ≠ dashes ∧ option.name.head? = some dash := by
  cases option <;> exact ⟨by decide, rfl⟩

/-- An option that is not set yet. -/
theorem parseLoop_option {option : RootOption} {value : List UInt8} (some : value ≠ [])
    (fresh : given.value option = none) :
    parseLoop (option.name :: value :: rest) given = parseLoop rest (given.set option value) := by
  obtain ⟨other, dashed⟩ := name_dash option
  conv_lhs => unfold parseLoop
  rw [if_neg other, if_neg (not_not_intro dashed)]
  simp only [if_neg some]
  have distinct {first second : RootOption} (different : first.name ≠ second.name) {rest : Prop} :
      ¬ (first.name = second.name ∧ rest) := fun both => different both.1
  cases option with
  | install =>
      rw [if_pos ⟨rfl, fresh⟩]
      rfl
  | log =>
      rw [if_neg (distinct (by decide)), if_pos ⟨rfl, fresh⟩]
      rfl
  | run =>
      rw [if_neg (distinct (by decide)), if_neg (distinct (by decide)), if_pos ⟨rfl, fresh⟩]
      rfl

/-- What the loop may have found at an argument. -/
theorem parseLoop_cases (run : parseLoop (argument :: rest) given = some result) :
    (∃ config, (argument :: rest = [config] ∧ config.head? ≠ some dash ∨
        argument :: rest = [dashes, config]) ∧ result = { given with config := some config }) ∨
      ∃ option value tail, argument :: rest = option.name :: value :: tail ∧ value ≠ [] ∧
        given.value option = none ∧ parseLoop tail (given.set option value) = some result := by
  unfold parseLoop at run
  split at run
  · rename_i dashed
    split at run
    · cases Option.some.inj run
      rw [dashed]
      exact .inl ⟨_, .inr rfl, rfl⟩
    · cases run
  · split at run
    · rename_i plain
      obtain ⟨rfl, ⟨⟩⟩ := Option.ite_none_right_eq_some.mp run
      exact .inl ⟨argument, .inl ⟨rfl, plain⟩, rfl⟩
    · right
      split at run
      · cases run
      · rename_i value tail
        split at run
        · cases run
        · rename_i filled
          split at run
          · rename_i chosen
            exact ⟨.install, value, tail, by rw [chosen.1], filled, chosen.2, run⟩
          · split at run
            · rename_i chosen
              exact ⟨.log, value, tail, by rw [chosen.1], filled, chosen.2, run⟩
            · split at run
              · rename_i chosen
                exact ⟨.run, value, tail, by rw [chosen.1], filled, chosen.2, run⟩
              · cases run

/-- What the loop has added to the variables. -/
structure Adds (given result : Arguments) (pairs : List (RootOption × List UInt8))
    (config : List UInt8) : Prop where
  config : result.config = some config
  values : ∀ option value, result.value option = some value ↔
    given.value option = some value ∨ (option, value) ∈ pairs

theorem adds_config (given : Arguments) (config : List UInt8) :
    Adds given { given with config := some config } [] config := by
  refine ⟨rfl, fun option value => ?_⟩
  cases option <;> simp [Arguments.value]

theorem Adds.cons {option : RootOption} {value : List UInt8}
    (adds : Adds (given.set option value) result pairs config)
    (fresh : given.value option = none) : Adds given result ((option, value) :: pairs) config := by
  refine ⟨adds.config, fun other found => ?_⟩
  rw [adds.values, Arguments.value_set, List.mem_cons, Prod.mk.injEq]
  by_cases same : other = option
  · subst same
    simp [fresh, eq_comm]
  · simp [same]

/-- What is accepted is in the grammar. -/
theorem grammar_of_parseLoop {arguments : List (List UInt8)} (unset : given.config = none)
    (run : parseLoop arguments given = some result) (named : result.config = some config)
    (filled : config ≠ []) :
    ∃ pairs, Grammar arguments pairs config ∧ (∀ pair ∈ pairs, given.value pair.1 = none) ∧
      Adds given result pairs config := by
  induction size : arguments.length using Nat.strongRecOn
    generalizing arguments given with
  | _ length ih =>
      cases arguments with
      | nil =>
          cases Option.some.inj run
          cases unset.symm.trans named
      | cons argument rest =>
          rcases parseLoop_cases run with
            ⟨found, spelt, rfl⟩ | ⟨option, value, tail, spelt, some, fresh, onward⟩
          · cases Option.some.inj named
            exact ⟨[], ⟨spelt, by simp, by simp, filled⟩, by simp, adds_config given _⟩
          · have shorter : tail.length < length := by
              have both := congrArg List.length spelt
              simp only [List.length_cons] at both size
              omega
            obtain ⟨pairs, grammar, free, adds⟩ :=
              ih tail.length shorter (by rw [Arguments.config_set, unset]) onward rfl
            -- the options that follow are free once this one is set, so they are others
            have others : ∀ pair ∈ pairs, pair.1 ≠ option ∧ given.value pair.1 = none := by
              intro pair member
              have unset := free pair member
              rw [Arguments.value_set] at unset
              split at unset
              · cases unset
              · rename_i distinct
                exact ⟨distinct, unset⟩
            refine ⟨(option, value) :: pairs, ⟨?_, ?_, ?_, filled⟩, ?_, adds.cons fresh⟩
            · rw [spelt]
              rcases grammar.spelt with ⟨plain, undashed⟩ | dashed
              · exact .inl ⟨congrArg (option.name :: value :: ·) plain, undashed⟩
              · exact .inr (congrArg (option.name :: value :: ·) dashed)
            · rw [List.map_cons, List.nodup_cons]
              refine ⟨fun again => ?_, grammar.once⟩
              obtain ⟨pair, member, same⟩ := List.mem_map.mp again
              exact (others pair member).1 same
            · intro pair member
              rcases List.mem_cons.mp member with rfl | member
              · exact some
              · exact grammar.values pair member
            · intro pair member
              rcases List.mem_cons.mp member with rfl | member
              · exact fresh
              · exact (others pair member).2

/-- What is in the grammar is accepted. -/
theorem parseLoop_of_grammar {arguments : List (List UInt8)}
    (grammar : Grammar arguments pairs config)
    (free : ∀ pair ∈ pairs, given.value pair.1 = none) :
    ∃ result, parseLoop arguments given = some result ∧ Adds given result pairs config := by
  induction pairs generalizing arguments given with
  | nil =>
      refine ⟨{ given with config := some config }, ?_, adds_config given config⟩
      rcases grammar.spelt with ⟨rfl, undashed⟩ | rfl
      · have other : config ≠ dashes := by
          rintro rfl
          exact undashed rfl
        simp [parseLoop, other, undashed]
      · simp [parseLoop]
  | cons pair pairs ih =>
      obtain ⟨option, value⟩ := pair
      have fresh := free (option, value) List.mem_cons_self
      have once := List.nodup_cons.mp grammar.once
      have filled := grammar.values (option, value) List.mem_cons_self
      obtain ⟨tail, spelt, rest⟩ : ∃ tail, arguments = option.name :: value :: tail ∧
          Grammar tail pairs config := by
        have values := fun pair member => grammar.values pair (List.mem_cons_of_mem _ member)
        rcases grammar.spelt with ⟨plain, undashed⟩ | dashed
        · exact ⟨_, plain, .inl ⟨rfl, undashed⟩, once.2, values, grammar.config⟩
        · exact ⟨_, dashed, .inr rfl, once.2, values, grammar.config⟩
      have still : ∀ pair ∈ pairs, (given.set option value).value pair.1 = none := by
        intro pair member
        have distinct : pair.1 ≠ option := by
          intro same
          exact once.1 (List.mem_map.mpr ⟨pair, member, same⟩)
        rw [Arguments.value_set, if_neg distinct]
        exact free pair (List.mem_cons_of_mem _ member)
      obtain ⟨result, run, adds⟩ := ih rest still
      refine ⟨result, ?_, adds.cons fresh⟩
      rw [spelt, parseLoop_option filled fresh]
      exact run

end Loop

/-! ## The function -/

/-- Nothing is set at the beginning. -/
theorem value_start (option : RootOption) : Arguments.value {} option = none := by
  cases option <;> rfl

theorem parseArguments_of_grammar {arguments : List (List UInt8)}
    {pairs : List (RootOption × List UInt8)} {config : List UInt8}
    (grammar : Grammar arguments pairs config) :
    ∃ result, parseArguments arguments = some result ∧ Adds {} result pairs config := by
  obtain ⟨result, run, adds⟩ := parseLoop_of_grammar grammar fun pair _ => value_start pair.1
  refine ⟨result, ?_, adds⟩
  have filled := grammar.config
  simp [parseArguments, run, adds.config, filled]

/-- For every list of arguments.  The loop accepts just the grammar, with the values that
were given and no others; and the order of the options does not matter. -/
theorem launcher_grammar (arguments : List (List UInt8)) :
    (∀ result, parseArguments arguments = some result ↔
      ∃ pairs config, Grammar arguments pairs config ∧ result.config = some config ∧
        ∀ option value, result.value option = some value ↔ (option, value) ∈ pairs) ∧
    ∀ pairs config, Grammar arguments pairs config → ∀ permuted others,
      Grammar permuted others config → others.Perm pairs →
        parseArguments permuted = parseArguments arguments := by
  have start : ∀ {result pairs config}, Adds {} result pairs config →
      ∀ option value, result.value option = some value ↔ (option, value) ∈ pairs := by
    intro result pairs config adds option value
    rw [adds.values, value_start]
    simp
  constructor
  · intro result
    constructor
    · intro run
      unfold parseArguments at run
      split at run
      · cases run
      · rename_i given parsed
        obtain ⟨named, ⟨⟩⟩ := Option.ite_none_left_eq_some.mp run
        rw [not_or] at named
        obtain ⟨config, found⟩ := Option.ne_none_iff_exists'.mp named.1
        have filled : config ≠ [] := by
          rintro rfl
          exact named.2 found
        obtain ⟨pairs, grammar, -, adds⟩ := grammar_of_parseLoop rfl parsed found filled
        exact ⟨pairs, config, grammar, found, start adds⟩
    · rintro ⟨pairs, config, grammar, named, values⟩
      obtain ⟨found, run, adds⟩ := parseArguments_of_grammar grammar
      rw [run]
      congr 1
      refine Arguments.ext_values (adds.config.trans named.symm) fun option value => ?_
      rw [start adds, values]
  · intro pairs config grammar permuted others also same
    obtain ⟨result, run, adds⟩ := parseArguments_of_grammar grammar
    obtain ⟨other, again, more⟩ := parseArguments_of_grammar also
    rw [run, again]
    congr 1
    refine Arguments.ext_values (more.config.trans adds.config.symm) fun option value => ?_
    rw [start more, start adds, same.mem_iff]

example : parseArguments [RootOption.run.name, [45], RootOption.log.name, [97], dashes, [45]] =
    some ⟨none, some [97], some [45], some [45]⟩ := by decide

end Skyuv.Runtime
