import PullRequestBot.Proofs.Git.RunCourse

set_option autoImplicit false

/-! # The first command tells the operation

Most operations begin with a command of their own, whose arguments say which operation it is and what it was
told. They can be read back (`ofArguments?_arguments`), but for one slip: flags and paths stand side by side,
so a path that looks like the flag for everything is taken for it
(`first_command_tells_operation_iff`, `path_taken_for_flag`). -/

namespace PullRequestBot.Git

open Dialogue (Exchange Leads Oracle)
open Host (Ran ran)

variable {α : Type} {said : List (Exchange Host.Answer)}

/-! ## Reading arguments -/

namespace Command

/-- The command that arguments are taken for. -/
def ofArguments? : List String → Option Command
  | "add" :: "--all" :: paths => some (.stage paths true)
  | "add" :: paths => some (.stage paths false)
  | ["commit", "-m", text] => some (.commit text false false)
  | ["commit", "-a", "-m", text] => some (.commit text true false)
  | ["commit", "--allow-empty", "-m", text] => some (.commit text false true)
  | ["commit", "-a", "--allow-empty", "-m", text] => some (.commit text true true)
  | ["reset", "--quiet", "--hard", target] => some (.hardReset target)
  | ["push", remote, branch] => some (.push remote branch)
  | ["fetch", "--all", "--quiet"] => some .fetchAll
  | ["checkout", "--quiet", branch] => some (.checkout branch false)
  | ["checkout", "--quiet", "--track", branch] => some (.checkout branch true)
  | ["checkout", "--quiet", "-b", branch, start] => some (.checkoutNew branch start)
  | ["diff", "--name-only", "-z", "--relative", since, "HEAD"] => some (.diff since)
  | ["rev-parse", "HEAD"] => some .revParseHead
  | _ => none

/-- What a command is taken for: a first path that looks like the flag for everything is no path. -/
def taken : Command → Command
  | .stage paths false => if paths.head? = some "--all" then .stage paths.tail true else .stage paths false
  | command => command

/-- A command is taken for itself or its first path is taken for the flag. -/
theorem taken_cases (command : Command) :
    command.taken = command ∨ ∃ paths, command = .stage ("--all" :: paths) false ∧
      command.taken = .stage paths true := by
  cases command with
  | stage paths all =>
      cases all with
      | true => exact Or.inl rfl
      | false =>
          by_cases hflag : paths.head? = some "--all"
          · obtain ⟨rest, rfl⟩ := List.head?_eq_some_iff.1 hflag
            exact Or.inr ⟨rest, rfl, rfl⟩
          · exact Or.inl (if_neg hflag)
  | _ => exact Or.inl rfl

theorem arguments_taken (command : Command) : command.taken.arguments = command.arguments := by
  rcases command.taken_cases with hsame | ⟨paths, rfl, htaken⟩
  · rw [hsame]
  · rw [htaken]
    rfl

/-- Paths behind `add` are staged, but for a flag in front of them. -/
theorem ofArguments?_add (paths : List String) :
    ofArguments? ("add" :: paths) = some (taken (.stage paths false)) := by
  cases paths with
  | nil => rfl
  | cons path rest =>
      by_cases hflag : path = "--all"
      · subst hflag
        rfl
      · have hpath : (path :: rest).head? ≠ some "--all" := fun h => hflag (Option.some.inj h)
        simp [ofArguments?, taken, hflag]

/-- Two commands are taken for the same only if they are, or if a path of one is taken for the flag of the
    other. -/
theorem taken_eq_iff {command command' : Command} :
    command.taken = command'.taken ↔ command = command' ∨
      (∃ paths, command = .stage ("--all" :: paths) false ∧ command' = .stage paths true) ∨
      ∃ paths, command' = .stage ("--all" :: paths) false ∧ command = .stage paths true := by
  constructor
  · intro h
    rcases command.taken_cases with hsame | ⟨paths, hcommand, htaken⟩
    · rcases command'.taken_cases with hsame' | ⟨paths', hcommand', htaken'⟩
      · exact Or.inl (hsame.symm.trans (h.trans hsame'))
      · exact Or.inr (Or.inr ⟨paths', hcommand', hsame.symm.trans (h.trans htaken')⟩)
    · rcases command'.taken_cases with hsame' | ⟨paths', hcommand', htaken'⟩
      · exact Or.inr (Or.inl ⟨paths, hcommand, hsame'.symm.trans (h.symm.trans htaken)⟩)
      · have hpaths : Command.stage paths true = .stage paths' true := htaken.symm.trans (h.trans htaken')
        rw [hcommand, hcommand', (Command.stage.inj hpaths).1]
        exact Or.inl rfl
  · rintro (rfl | ⟨paths, rfl, rfl⟩ | ⟨paths, rfl, rfl⟩) <;> rfl

end Command

/-! ## Operations with a command of their own -/

namespace Operation

/-- The command that an operation begins with. Left out are clones, which look at the target first, new
    remotes, which list the old ones first, and mere looks. -/
def command? : Operation → Option Command
  | .stage _ paths all => some (.stage paths all)
  | .commit _ text all allowsEmpty => some (.commit text all allowsEmpty)
  | .hardReset _ target => some (.hardReset target)
  | .push _ remote branch => some (.push remote branch)
  | .fetchAll _ => some .fetchAll
  | .checkout _ branch track => some (.checkout branch track)
  | .checkoutNew _ branch start => some (.checkoutNew branch start)
  | .diffedFiles _ since => some (.diff since)
  | .revParseHead _ => some .revParseHead
  | .clone _ _ | .addRemote _ _ _ | .refExists _ _ | .branchExists _ _ | .remoteExists _ => none

/-- The operation that begins with a command in a directory. -/
def ofCommand? (directory : String) : Command → Option Operation
  | .stage paths all => some (.stage directory paths all)
  | .commit text all allowsEmpty => some (.commit directory text all allowsEmpty)
  | .hardReset target => some (.hardReset directory target)
  | .push remote branch => some (.push directory remote branch)
  | .fetchAll => some (.fetchAll directory)
  | .checkout branch track => some (.checkout directory branch track)
  | .checkoutNew branch start => some (.checkoutNew directory branch start)
  | .diff since => some (.diffedFiles directory since)
  | .revParseHead => some (.revParseHead directory)
  | .clone _ _ | .listRemotes | .addRemote _ _ | .showRef _ | .listRefs _ => none

/-- The same operation, told the same, in another directory. -/
def movedTo (directory : String) : Operation → Operation
  | .stage _ paths all => .stage directory paths all
  | .commit _ text all allowsEmpty => .commit directory text all allowsEmpty
  | .hardReset _ target => .hardReset directory target
  | .clone url target => .clone url target
  | .addRemote _ name url => .addRemote directory name url
  | .push _ remote branch => .push directory remote branch
  | .fetchAll _ => .fetchAll directory
  | .refExists _ reference => .refExists directory reference
  | .branchExists _ name => .branchExists directory name
  | .remoteExists url => .remoteExists url
  | .checkout _ branch track => .checkout directory branch track
  | .checkoutNew _ branch start => .checkoutNew directory branch start
  | .diffedFiles _ since => .diffedFiles directory since
  | .revParseHead _ => .revParseHead directory

/-- Two operations are the same, and were told the same, but for the directory. -/
def Same (operation operation' : Operation) : Prop :=
  ∀ directory, operation.movedTo directory = operation'.movedTo directory

/-- Paths are to be staged the first of which looks like the flag for everything, and everything is to be
    staged besides the others. -/
def MistakenFor (operation operation' : Operation) : Prop :=
  ∃ directory directory' paths, operation = .stage directory ("--all" :: paths) false ∧
    operation' = .stage directory' paths true

variable {operation operation' : Operation} {command command' : Command}

theorem ofArguments?_arguments (h : operation.command? = some command) :
    Command.ofArguments? command.arguments = some command.taken := by
  cases operation with
  | stage _ paths all =>
      obtain rfl := Option.some.inj h
      cases all with
      | true => rfl
      | false => exact Command.ofArguments?_add paths
  | commit _ _ all allowsEmpty =>
      obtain rfl := Option.some.inj h
      cases all <;> cases allowsEmpty <;> rfl
  | checkout _ _ track =>
      obtain rfl := Option.some.inj h
      cases track <;> rfl
  | hardReset _ _ | push _ _ _ | fetchAll _ | checkoutNew _ _ _ | diffedFiles _ _ | revParseHead _ =>
      obtain rfl := Option.some.inj h
      rfl
  | clone _ _ | addRemote _ _ _ | refExists _ _ | branchExists _ _ | remoteExists _ => exact absurd h nofun

/-- Commands are read back from their arguments as what they are taken for. -/
theorem arguments_eq_iff (h : operation.command? = some command) (h' : operation'.command? = some command') :
    command.arguments = command'.arguments ↔ command.taken = command'.taken := by
  constructor
  · intro hsame
    have hread := ofArguments?_arguments h
    rw [hsame, ofArguments?_arguments h'] at hread
    exact (Option.some.inj hread).symm
  · intro hsame
    rw [← command.arguments_taken, hsame, command'.arguments_taken]

theorem ofCommand?_eq (h : operation.command? = some command) (directory : String) :
    ofCommand? directory command = some (operation.movedTo directory) := by
  cases operation with
  | clone _ _ | addRemote _ _ _ | refExists _ _ | branchExists _ _ | remoteExists _ => exact absurd h nofun
  | _ =>
      obtain rfl := Option.some.inj h
      rfl

theorem command?_movedTo (operation : Operation) (directory : String) :
    (operation.movedTo directory).command? = operation.command? := by
  cases operation <;> rfl

theorem same_iff (h : operation.command? = some command) (h' : operation'.command? = some command') :
    operation.Same operation' ↔ command = command' := by
  constructor
  · intro hsame
    have hcommand := congrArg command? (hsame "")
    rw [command?_movedTo, command?_movedTo, h, h'] at hcommand
    exact Option.some.inj hcommand
  · rintro rfl directory
    exact Option.some.inj ((ofCommand?_eq h directory).symm.trans (ofCommand?_eq h' directory))

theorem eq_stage_of_command? {paths : List String} {all : Bool}
    (h : operation.command? = some (.stage paths all)) : ∃ directory, operation = .stage directory paths all := by
  cases operation with
  | stage directory _ _ =>
      obtain ⟨rfl, rfl⟩ := Command.stage.inj (Option.some.inj h)
      exact ⟨directory, rfl⟩
  | _ => exact absurd h nofun

theorem mistakenFor_iff (h : operation.command? = some command)
    (h' : operation'.command? = some command') :
    operation.MistakenFor operation' ↔
      ∃ paths, command = .stage ("--all" :: paths) false ∧ command' = .stage paths true := by
  constructor
  · rintro ⟨_, _, paths, rfl, rfl⟩
    exact ⟨paths, (Option.some.inj h).symm, (Option.some.inj h').symm⟩
  · rintro ⟨paths, rfl, rfl⟩
    obtain ⟨directory, rfl⟩ := eq_stage_of_command? h
    obtain ⟨directory', rfl⟩ := eq_stage_of_command? h'
    exact ⟨directory, directory', paths, rfl, rfl⟩

end Operation

/-! ## The first process -/

/-- A run starts the process that it is told to, if it starts any. -/
theorem Runner.first_of_leads {runner : Runner} {arguments : List String} {directory : Option String}
    {options : RunOptions} {result : Except Failure Output} {first : Ran}
    (h : (runner.run arguments directory options).run.Leads said result)
    (hfirst : (ran said).head? = some first) : first.arguments = arguments := by
  cases course_of_leads h with
  | locked hran _ _ =>
      rw [hran] at hfirst
      exact absurd hfirst nofun
  | unstarted hran _ | passed hran _ | refused hran _ =>
      rw [hran] at hfirst
      obtain rfl := Option.some.inj hfirst
      rfl

/-- So does whatever begins with a run. -/
theorem Runner.first_of_leads_bind {runner : Runner} {arguments : List String} {directory : Option String}
    {options : RunOptions} {next : Output → Attempt α} {result : Except Failure α} {first : Ran}
    (h : (runner.run arguments directory options >>= next).run.Leads said result)
    (hfirst : (ran said).head? = some first) : first.arguments = arguments := by
  rcases Dialogue.leads_run_bind_iff.1 h with ⟨failure, -, hrun⟩ | ⟨before, output, after, rfl, hrun, -⟩
  · exact first_of_leads hrun hfirst
  · obtain ⟨outcome, hran, -, -⟩ := passed_of_leads hrun
    rw [Host.ran_append, hran] at hfirst
    obtain rfl := Option.some.inj hfirst
    rfl

namespace Client

/-- An operation with a command of its own starts it first, if it starts anything. -/
theorem first_of_carryOut {client : Client} {operation : Operation} {command : Command}
    (hcommand : operation.command? = some command) {result : Except Failure operation.Result} {first : Ran}
    (h : (client.carryOut operation).run.Leads said result) (hfirst : (ran said).head? = some first) :
    first.arguments = command.arguments := by
  cases operation with
  | stage directory paths all =>
      obtain rfl := Option.some.inj hcommand
      change (client.stage directory paths all).run.Leads said result at h
      unfold stage at h
      -- nothing is started if there is nothing to stage
      split at h
      · obtain ⟨rfl, -⟩ := Dialogue.leads_done_iff.1 h
        exact absurd hfirst nofun
      · exact Runner.first_of_leads_bind h hfirst
  | diffedFiles directory since =>
      obtain rfl := Option.some.inj hcommand
      obtain ⟨middle, hlisting, -⟩ := Dialogue.leads_run_bind_pure_iff.1 h
      exact Runner.first_of_leads_bind hlisting hfirst
  | commit _ _ _ _ | hardReset _ _ | push _ _ _ | fetchAll _ | checkout _ _ _ | checkoutNew _ _ _
  | revParseHead _ =>
      obtain rfl := Option.some.inj hcommand
      exact Runner.first_of_leads_bind h hfirst
  | clone _ _ | addRemote _ _ _ | refExists _ _ | branchExists _ _ | remoteExists _ =>
      exact absurd hcommand nofun

/-- **The first command tells the operation**, but for one slip. Take two operations with a command of their
    own, told whatever texts, each of which starts a process. The first processes have the same arguments
    exactly if both are the same operation and were told the same, up to the directory, or if one is to stage
    paths the first of which is `--all`, and the other is to stage everything besides the paths after it. -/
theorem first_command_tells_operation_iff (client client' : Client) (operation operation' : Operation)
    (hcommand : operation.command?.isSome) (hcommand' : operation'.command?.isSome)
    (host host' : Oracle Host.Answer) (past past' : List (Exchange Host.Answer)) (first first' : Ran)
    (hfirst : (ran ((client.carryOut operation).run.transcript host past).1).head? = some first)
    (hfirst' : (ran ((client'.carryOut operation').run.transcript host' past').1).head? = some first') :
    first.arguments = first'.arguments ↔
      operation.Same operation' ∨ operation.MistakenFor operation' ∨ operation'.MistakenFor operation := by
  obtain ⟨command, hcommand⟩ := Option.isSome_iff_exists.1 hcommand
  obtain ⟨command', hcommand'⟩ := Option.isSome_iff_exists.1 hcommand'
  rw [first_of_carryOut hcommand (Dialogue.leads_transcript host past _) hfirst,
    first_of_carryOut hcommand' (Dialogue.leads_transcript host' past' _) hfirst',
    Operation.arguments_eq_iff hcommand hcommand', Command.taken_eq_iff, Operation.same_iff hcommand hcommand',
    Operation.mistakenFor_iff hcommand hcommand', Operation.mistakenFor_iff hcommand' hcommand]

/-- The case of a commit whose message looks like a flag, and of one with that flag. -/
theorem flag_in_message_told_apart :
    let client : Client := {}
    let host : Oracle Host.Answer := fun _ => nothingThere
    let first : Ran := ⟨["commit", "-m", "--allow-empty"], some "work", .ok {}⟩
    let first' : Ran := ⟨["commit", "--allow-empty", "-m", "-m"], some "work", .ok {}⟩
    let operation := Operation.commit "work" "--allow-empty" false false
    let operation' := Operation.commit "work" "-m" false true
    (ran ((client.carryOut operation).run.transcript host []).1).head? = some first ∧
      (ran ((client.carryOut operation').run.transcript host []).1).head? = some first' ∧
      ¬ (operation.Same operation' ∨ operation.MistakenFor operation' ∨
        operation'.MistakenFor operation) := by
  intro client host first first' operation operation'
  have hfirst : (ran ((client.carryOut operation).run.transcript host []).1).head? = some first := rfl
  have hfirst' : (ran ((client.carryOut operation').run.transcript host []).1).head? = some first' := rfl
  have htells := first_command_tells_operation_iff client client operation operation' rfl rfl host host [] []
    first first' hfirst hfirst'
  exact ⟨hfirst, hfirst', mt htells.2 (by decide)⟩

/-- A path that looks like the flag for everything is taken for it: to stage this path alone, git is told to
    stage everything. -/
theorem path_taken_for_flag :
    let client : Client := {}
    let host : Oracle Host.Answer := fun _ => nothingThere
    let path := Operation.stage "work" ["--all"] false
    let everything := Operation.stage "work" [] true
    let run (operation : Operation) := ran ((client.carryOut operation).run.transcript host []).1
    run path = [⟨["add", "--all"], some "work", .ok {}⟩] ∧
      run everything = [⟨["add", "--all"], some "work", .ok {}⟩] ∧ ¬ path.Same everything := by
  intro client host path everything run
  refine ⟨rfl, rfl, fun hsame => ?_⟩
  exact absurd (hsame "work") nofun

end Client

end PullRequestBot.Git
