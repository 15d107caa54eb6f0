import DaemonDialogue.Proofs.Daemon.Lifecycle
import DaemonDialogue.Proofs.Text.Cut
import DaemonDialogue.Proofs.Trial.Scratch

/-!
# Flags of a daemon

The first argument that is a flag, or the flag with an equals sign behind it, decides about the
value of the flag. A data directory that is put in front of the arguments is therefore the value of
its flag, and takes no other flag its value. So a handle says of a daemon what its command line
says, and whoever takes the command line over starts a daemon with the same one.
-/

namespace DaemonDialogue

open Daemon (World)

/-! ## Values of flags -/

namespace Command

variable {flag argument path : String} {arguments before rest : List String}

/-- Does an argument decide about the value of a flag? -/
def Gives (flag argument : String) : Prop :=
  argument = flag ∨ ∃ value, argument = flag ++ "=" ++ value

/-- Is something the value of a flag, as the first argument that gives it one decides: the argument
behind a flag that stands alone, if there is one, or what is behind the equals sign? -/
structure Decides (flag : String) (arguments : List String) (value? : Option String) : Prop where
  absent : (∀ a ∈ arguments, ¬Gives flag a) → value? = none
  alone : ∀ i, (∀ a ∈ arguments.take i, ¬Gives flag a) → arguments[i]? = some flag →
    value? = arguments[i + 1]?
  joined : ∀ i value, (∀ a ∈ arguments.take i, ¬Gives flag a) →
    arguments[i]? = some (flag ++ "=" ++ value) → value? = some value

theorem behind?_flag {value : List Char} :
    Cut.behind? (flag.toList ++ ['=']) argument.toList = some value ↔
      argument = flag ++ "=" ++ String.ofList value := by
  rw [Cut.behind?_eq_some_iff, ← String.toList_inj]
  simp

theorem joined_ne (flag value : String) : flag ++ "=" ++ value ≠ flag := by
  intro h
  have hlength := congrArg (fun text : String => text.toList.length) h
  simp at hlength

theorem flagValue?_alone (flag : String) (rest : List String) :
    flagValue? flag (flag :: rest) = rest.head? := if_pos rfl

theorem flagValue?_joined (flag value : String) (rest : List String) :
    flagValue? flag ((flag ++ "=" ++ value) :: rest) = some value := by
  have hbehind : Cut.behind? (flag.toList ++ ['=']) (flag ++ "=" ++ value).toList =
      some value.toList := by
    rw [behind?_flag, String.ofList_toList]
  rw [flagValue?, if_neg (joined_ne flag value), hbehind]
  exact congrArg some value.ofList_toList

theorem flagValue?_skip (h : ¬Gives flag argument) (rest : List String) :
    flagValue? flag (argument :: rest) = flagValue? flag rest := by
  obtain ⟨hne, hjoined⟩ := not_or.1 h
  rw [flagValue?, if_neg hne]
  cases hbehind : Cut.behind? (flag.toList ++ ['=']) argument.toList with
  | none => rfl
  | some value => exact absurd ⟨_, behind?_flag.1 hbehind⟩ hjoined

theorem flagValue?_append (h : ∀ a ∈ before, ¬Gives flag a) (rest : List String) :
    flagValue? flag (before ++ rest) = flagValue? flag rest := by
  induction before with
  | nil => rfl
  | cons a before ih =>
    obtain ⟨ha, hbefore⟩ := List.forall_mem_cons.1 h
    rw [List.cons_append, flagValue?_skip ha, ih hbefore]

theorem flagValue?_drop {i : Nat} (h : ∀ a ∈ arguments.take i, ¬Gives flag a) :
    flagValue? flag arguments = flagValue? flag (arguments.drop i) := by
  have hcut := flagValue?_append h (arguments.drop i)
  rwa [List.take_append_drop] at hcut

theorem decides_flagValue? (flag : String) (arguments : List String) :
    Decides flag arguments (flagValue? flag arguments) where
  absent h := by
    rw [← List.append_nil arguments, flagValue?_append h]
    rfl
  alone i h hi := by
    rw [flagValue?_drop h, List.drop_eq_getElem?_toList_append, hi]
    rw [Option.toList_some, List.singleton_append, flagValue?_alone, List.head?_drop]
  joined i value h hi := by
    rw [flagValue?_drop h, List.drop_eq_getElem?_toList_append, hi]
    exact flagValue?_joined flag value _

/-! ## A data directory in front -/

/-- Does a text begin like a flag? -/
def Dashed (text : String) : Prop := text.toList.head? = some '-'

instance : DecidablePred Dashed := fun text =>
  inferInstanceAs (Decidable (text.toList.head? = some '-'))

theorem not_gives_of_not_dashed (hflag : Dashed flag) (hpath : ¬Dashed path) :
    ¬Gives flag path := by
  rintro (rfl | ⟨value, rfl⟩)
  · exact hpath hflag
  · refine hpath ?_
    obtain ⟨rest, hrest⟩ := List.head?_eq_some_iff.1 hflag
    simp [Dashed, hrest]

theorem not_gives_datadir (hne : flag ≠ "--datadir") : ¬Gives flag "--datadir" := by
  rintro (heq | ⟨value, heq⟩)
  · exact hne heq.symm
  · have hequals : '=' ∈ "--datadir".toList := by
      rw [heq]
      simp
    exact absurd hequals (by decide)

theorem flagValue?_behind_datadir (hpath : ¬Dashed path) (hflag : Dashed flag)
    (hne : flag ≠ "--datadir") (arguments : List String) :
    flagValue? flag ("--datadir" :: path :: arguments) = flagValue? flag arguments := by
  rw [flagValue?_skip (not_gives_datadir hne),
    flagValue?_skip (not_gives_of_not_dashed hflag hpath)]

theorem needsScratch_iff {c : Command} : c.needsScratch = true ↔
    c.scratchDatadir = true ∧ flagValue? "--datadir" c.arguments = none := by
  simp [needsScratch]

end Command

/-! ## Worlds that take notes -/

/-- A world that takes down which processes it is asked to start. -/
def Daemon.World.noting {σ : Type} (w : World σ) : World (List Daemon.Launch × σ) where
  toSurroundings := w.toSurroundings.beside _
  log level message context p := (p.1, w.log level message context p.2)
  count level p := w.count level p.2
  summarize p := (p.1, w.summarize p.2)
  files p := w.files p.2
  setFiles files p := (p.1, w.setFiles files p.2)
  draw p := ((w.draw p.2).1, p.1, (w.draw p.2).2)
  stamp p := w.stamp p.2
  launch l p := ((w.launch l p.2).1, p.1 ++ [l], (w.launch l p.2).2)
  capture pid channel p := ((w.capture pid channel p.2).1, p.1, (w.capture pid channel p.2).2)
  stream pid channel p := w.stream pid channel p.2
  write pid bytes p := ((w.write pid bytes p.2).1, p.1, (w.write pid bytes p.2).2)
  closeInput pid p := (p.1, w.closeInput pid p.2)
  poll pid p := ((w.poll pid p.2).1, p.1, (w.poll pid p.2).2)
  await pid p := ((w.await pid p.2).1, p.1, (w.await pid p.2).2)
  signal pid sig p := ((w.signal pid sig p.2).1, p.1, (w.signal pid sig p.2).2)
  kill pid p := ((w.kill pid p.2).1, p.1, (w.kill pid p.2).2)
  connects e p := w.connects e p.2

namespace Launch

variable {σ : Type} {w : World σ} {config : Config} {base dir : String} {c : Command}
variable {s s' : σ} {arguments : List String} {pid : Nat} {handle : Handle σ}
variable {noted : List Daemon.Launch}

def processOf (config : Config) (c : Command) (arguments : List String) (dir : String) :
    Daemon.Launch :=
  ⟨c.name, c.program, arguments, config.environment ++ c.environment, dir⟩

theorem createFresh_noting (stem : String) :
    w.noting.createFresh base stem (noted, s) =
      ((w.createFresh base stem s).1, noted, (w.createFresh base stem s).2) := by
  have hchange (change : File.Tree → Except SystemFault File.Tree) (s : σ) :
      w.noting.changeFiles change (noted, s) =
        ((w.changeFiles change s).1, noted, (w.changeFiles change s).2) := by
    have hfiles : w.noting.files (noted, s) = w.files s := rfl
    unfold World.changeFiles
    rw [hfiles]
    cases change (w.files s) <;> rfl
  have hdraw : w.noting.draw (noted, s) = ((w.draw s).1, noted, (w.draw s).2) := rfl
  unfold World.createFresh
  rw [hdraw]
  dsimp only
  rw [hchange]
  generalize w.changeFiles _ (w.draw s).2 = changed
  rcases changed with ⟨fault | _, s₁⟩ <;> rfl

theorem makeScratch_noting :
    makeScratch w.noting base c (noted, s) =
      ((makeScratch w base c s).1, noted, (makeScratch w base c s).2) := by
  have hcreate : w.noting.createDirectories base (noted, s) =
      ((w.createDirectories base s).1, noted, (w.createDirectories base s).2) := rfl
  unfold makeScratch
  rw [hcreate]
  split_ifs
  · rcases w.createDirectories base s with ⟨fault | _, s₁⟩
    · rfl
    · dsimp only
      rw [createFresh_noting]
      rcases w.createFresh base (c.name ++ "-datadir-") s₁ with ⟨fault | path, s₂⟩ <;> rfl
  · rfl

theorem capture_noting :
    capture w.noting pid (noted, s) = ((capture w pid s).1, noted, (capture w pid s).2) := by
  have hcapture (channel : Channel) (s : σ) : w.noting.capture pid channel (noted, s) =
      ((w.capture pid channel s).1, noted, (w.capture pid channel s).2) := rfl
  unfold capture
  rw [hcapture]
  rcases w.capture pid .stdout s with ⟨fault | _, s₁⟩ <;> rfl

theorem start_noting (w : World σ) (config : Config) (c : Command) (arguments : List String)
    (dir : String) (noted : List Daemon.Launch) (s : σ) : ∃ starts,
    start w.noting config c arguments dir (noted, s) =
        ((start w config c arguments dir s).1, noted ++ starts,
          (start w config c arguments dir s).2) ∧
      (starts = [] ∨ starts = [processOf config c arguments dir]) ∧
      ∀ pid, (start w config c arguments dir s).1 = .ok pid →
        starts = [processOf config c arguments dir] := by
  have hcreate : w.noting.createDirectories dir (noted, s) =
      ((w.createDirectories dir s).1, noted, (w.createDirectories dir s).2) := rfl
  have hlaunch (l : Daemon.Launch) (s : σ) : w.noting.launch l (noted, s) =
      ((w.launch l s).1, noted ++ [l], (w.launch l s).2) := rfl
  have hinfo (message : String) (s : σ) : w.noting.info message (noted, s) =
      (noted, w.info message s) := rfl
  unfold start
  rw [hcreate]
  rcases w.createDirectories dir s with ⟨fault | _, s₁⟩
  · exact ⟨[], by rw [List.append_nil], .inl rfl, fun _ => nofun⟩
  · dsimp only
    rw [hinfo, hlaunch]
    generalize w.info _ s₁ = s₂
    refine ⟨[processOf config c arguments dir], ?_, .inr rfl, fun _ _ => rfl⟩
    rcases w.launch
        ⟨c.name, c.program, arguments, config.environment ++ c.environment, dir⟩ s₂ with
      ⟨fault | pid, s₃⟩
    · rfl
    · dsimp only
      rw [capture_noting]
      rcases capture w pid s₃ with ⟨fault | _, s₄⟩ <;> rfl

theorem makeScratch_needs {made : Option String}
    (h : makeScratch w base c s = (.ok made, s')) : made.isSome = c.needsScratch := by
  unfold makeScratch at h
  split_ifs at h with hneeds
  · split at h
    · cases h
    · split at h
      · cases h
      · cases h
        exact hneeds.symm
  · cases h
    exact (Bool.eq_false_of_not_eq_true hneeds).symm

theorem made?_eq {made : Option String} (h : makeScratch w base c s = (.ok made, s')) :
    made? w base c s = made := by
  rw [made?, h]

/-- A launch that takes notes ends where it ends without, and asks for one process at most. -/
theorem run_noting (w : World σ) (config : Config) (base : String) (c : Command)
    (noted : List Daemon.Launch) (s : σ) : ∃ starts,
    (run w.noting config base c (noted, s)).2 = (noted ++ starts, (run w config base c s).2) ∧
      (∀ l ∈ starts, (made? w base c s).isSome = c.needsScratch ∧
        l = processOf config c (c.launchArguments (made? w base c s)) (c.workingDir.getD base)) ∧
      ∀ handle, (run w config base c s).1 = .ok handle →
        starts = [processOf config c handle.arguments handle.workingDir] := by
  unfold run
  rw [makeScratch_noting]
  rcases hmake : makeScratch w base c s with ⟨e | made, s₁⟩
  · exact ⟨[], by rw [List.append_nil], by simp, fun _ => nofun⟩
  · dsimp only
    rw [made?_eq hmake]
    obtain ⟨starts, hstart, hcases, hok⟩ :=
      start_noting w config c (c.launchArguments made) (c.workingDir.getD base) noted s₁
    have hall : ∀ l ∈ starts, made.isSome = c.needsScratch ∧
        l = processOf config c (c.launchArguments made) (c.workingDir.getD base) := by
      rcases hcases with rfl | rfl
      · simp
      · simpa using makeScratch_needs hmake
    rw [hstart]
    rcases hstarted : start w config c (c.launchArguments made) (c.workingDir.getD base) s₁ with
      ⟨e | pid, s₂⟩
    · refine ⟨starts, ?_, hall, fun _ => nofun⟩
      dsimp only
      split <;> rfl
    · refine ⟨starts, rfl, hall, fun handle hhandle => ?_⟩
      cases hhandle
      exact hok pid (by rw [hstarted])

theorem run_says (h : run w config base c s = (.ok handle, s')) :
    (made? w base c s).isSome = c.needsScratch ∧
      handle.arguments = c.launchArguments (made? w base c s) ∧
      handle.datadir = (made? w base c s).or (Command.flagValue? "--datadir" c.arguments) ∧
      handle.etherbase = Command.flagValue? "--etherbase" handle.arguments := by
  unfold run at h
  rcases hmake : makeScratch w base c s with ⟨e | made, s₁⟩
  all_goals rw [hmake] at h
  · cases h
  · dsimp only at h
    rcases hstarted : start w config c (c.launchArguments made) (c.workingDir.getD base) s₁ with
      ⟨e | pid, s₂⟩
    all_goals
      rw [hstarted] at h
      cases h
    rw [made?_eq hmake]
    exact ⟨makeScratch_needs hmake, rfl, rfl, rfl⟩

end Launch

/-! ## What a handle goes on to say -/

namespace Handle

variable {σ : Type} {w : World σ} {p : Handle σ × σ}

/-- What a handle says of the command line of its daemon: its arguments, and the values of two
flags. -/
def line (h : Handle σ) : List String × Option String × Option String :=
  (h.arguments, h.datadir, h.etherbase)

theorem tryStatus_line (h : Handle σ) (s : σ) : (h.tryStatus w s).2.1.line = h.line := by
  unfold tryStatus
  cases h.status with
  | some status => rfl
  | none => rcases w.poll h.pid s with ⟨_ | _, _⟩ <;> rfl

theorem expectExit_line (h : Handle σ) (s : σ) : (h.expectExit w s).2.1.line = h.line := by
  have hawait : (h.awaitEnd w s).2.1.line = h.line := by
    rw [awaitEnd_same]
    rfl
  unfold expectExit
  rcases hresult : h.awaitEnd w s with ⟨e | status, next, s'⟩
  all_goals rw [hresult] at hawait
  · exact hawait
  · dsimp only
    rw [recordUnmatched_same, finishCapture_same]
    exact hawait

theorem Operation.apply_line (op : Operation) : (op.apply w p).1.line = p.1.line := by
  cases hawaits : op.awaitsEnd with
  | true =>
    rw [apply_awaitsEnd hawaits]
    exact expectExit_line p.1 p.2
  | false =>
    cases op with
    | closeInput =>
      change (p.1.closeInput w p.2).1.line = _
      unfold Handle.closeInput
      split_ifs <;> rfl
    | expect source =>
      change (p.1.expect w source p.2).2.1.line = _
      unfold Handle.expect
      rcases p.1.render w source p.2 with ⟨_ | _, _⟩ <;> rfl
    | isRunning => exact tryStatus_line p.1 p.2
    | tryStatus => exact tryStatus_line p.1 p.2
    | terminate =>
      exact (congrArg line (terminate_handle p.1 p.2)).trans (tryStatus_line p.1 p.2)
    | kill => exact (congrArg line (kill_handle p.1 p.2)).trans (tryStatus_line p.1 p.2)
    | writeLine _ | render _ | expectLiteral _ _ | expectPattern _ _ _ => rfl
    | _ => cases hawaits

/-- Whatever is done with a handle, it says the same of the command line. -/
theorem line_operations (ops : List Operation) (p : Handle σ × σ) :
    (ops.foldl (Operation.apply w) p).1.line = p.1.line := by
  induction ops generalizing p with
  | nil => rfl
  | cons op rest ih => rw [List.foldl_cons, ih, Operation.apply_line]

end Handle

/-! ## Launches and their handles -/

namespace Launch

variable {σ : Type} {w : World σ} {config : Config} {base : String} {c : Command} {s s' : σ}
variable {handle : Handle σ}

theorem datadir_launchArguments {made : Option String} (hneeds : made.isSome = c.needsScratch) :
    made.or (Command.flagValue? "--datadir" c.arguments) =
      Command.flagValue? "--datadir" (c.launchArguments made) := by
  cases made with
  | none => rfl
  | some path =>
    rw [Command.launchArguments, Command.flagValue?_alone]
    rfl

theorem launchArguments_cases {made : Option String} (hneeds : made.isSome = c.needsScratch) :
    (c.scratchDatadir = true ∧ Command.flagValue? "--datadir" c.arguments = none →
      ∃ path, made = some path ∧ c.launchArguments made = "--datadir" :: path :: c.arguments) ∧
    (¬(c.scratchDatadir = true ∧ Command.flagValue? "--datadir" c.arguments = none) →
      c.launchArguments made = c.arguments) := by
  rw [← Command.needsScratch_iff, ← hneeds]
  cases made with
  | none => exact ⟨nofun, fun _ => rfl⟩
  | some path => exact ⟨fun _ => ⟨path, rfl, rfl⟩, fun hnone => absurd rfl hnone⟩

/-- The arguments of a started command name a data directory, or none may be put in front. -/
theorem needsScratch_again {made : Option String} (hneeds : made.isSome = c.needsScratch)
    {again : Command} (harguments : again.arguments = c.launchArguments made)
    (hscratch : again.scratchDatadir = c.scratchDatadir) : again.needsScratch = false := by
  rw [Command.needsScratch, harguments, hscratch]
  cases made with
  | none => exact hneeds.symm
  | some path => simp [Command.launchArguments, Command.flagValue?_alone]

theorem launchArguments_own (h : c.needsScratch = false) : ∀ made : Option String,
    made.isSome = c.needsScratch → c.launchArguments made = c.arguments := by
  rintro (_ | path) hmade
  · rfl
  · rw [h] at hmade
    cases hmade

/-- A handle says of its daemon what the command line says that it was started with. The first
argument that gives a flag a value decides about it. A process is started with the arguments of the
command as they are, or behind a data directory just if one may be made and they do not name one.
The handle has the arguments of its process and the data directory in them, whatever is done with
it; every other flag has the value that it has in the arguments of the command. A command with the
arguments of a handle is started with just these. -/
theorem line_of_run (w : World σ) (config : Config) (base : String) (c : Command) (s : σ) :
    (∀ flag arguments, Command.Decides flag arguments (Command.flagValue? flag arguments)) ∧
    (∀ l ∈ (run w.noting config base c ([], s)).2.1,
      (c.scratchDatadir = true ∧ Command.flagValue? "--datadir" c.arguments = none →
        ∃ path, made? w base c s = some path ∧
          l.arguments = "--datadir" :: path :: c.arguments) ∧
      (¬(c.scratchDatadir = true ∧ Command.flagValue? "--datadir" c.arguments = none) →
        l.arguments = c.arguments)) ∧
    ∀ handle s', run w config base c s = (.ok handle, s') →
      (run w.noting config base c ([], s)).2 =
        ([processOf config c handle.arguments handle.workingDir], s') ∧
      (∀ ops : List Handle.Operation,
        let later := (ops.foldl (Handle.Operation.apply w) (handle, s')).1
        later.line = handle.line ∧
          later.datadir = Command.flagValue? "--datadir" later.arguments) ∧
      ((∀ path, made? w base c s = some path → ¬Command.Dashed path) →
        (∀ flag, Command.Dashed flag → flag ≠ "--datadir" →
          Command.flagValue? flag handle.arguments = Command.flagValue? flag c.arguments) ∧
        handle.etherbase = Command.flagValue? "--etherbase" c.arguments) ∧
      ∀ {τ : Type} (world : World τ) (config' : Config) (base' : String) (again : Command) (t : τ),
        again.arguments = handle.arguments → again.scratchDatadir = c.scratchDatadir →
        (∀ l ∈ (run world.noting config' base' again ([], t)).2.1,
          l.arguments = handle.arguments) ∧
        ∀ handle' t', run world config' base' again t = (.ok handle', t') →
          handle'.arguments = handle.arguments := by
  have hnotes {τ : Type} (world : World τ) (config : Config) (base : String) (c : Command) (t : τ)
      (l : Daemon.Launch) (hl : l ∈ (run world.noting config base c ([], t)).2.1) :
      (made? world base c t).isSome = c.needsScratch ∧
        l.arguments = c.launchArguments (made? world base c t) := by
    obtain ⟨starts, hrun, hall, -⟩ := run_noting world config base c [] t
    rw [hrun] at hl
    obtain ⟨hneeds, rfl⟩ := hall l hl
    exact ⟨hneeds, rfl⟩
  refine ⟨Command.decides_flagValue?, fun l hl => ?_, fun handle s' hrun => ?_⟩
  · obtain ⟨hneeds, harguments⟩ := hnotes w config base c s l hl
    rw [harguments]
    exact launchArguments_cases hneeds
  · obtain ⟨hneeds, harguments, hdatadir, hetherbase⟩ := run_says hrun
    have hflags (hpath : ∀ path, made? w base c s = some path → ¬Command.Dashed path)
        (flag : String) (hflag : Command.Dashed flag) (hne : flag ≠ "--datadir") :
        Command.flagValue? flag handle.arguments = Command.flagValue? flag c.arguments := by
      rw [harguments]
      cases hmade : made? w base c s with
      | none => rfl
      | some path => exact Command.flagValue?_behind_datadir (hpath path hmade) hflag hne _
    refine ⟨?_, fun ops => ?_, fun hpath => ⟨hflags hpath, ?_⟩,
      fun world config' base' again t hagain hscratch => ?_⟩
    · obtain ⟨starts, hnoting, -, hok⟩ := run_noting w config base c [] s
      rw [hnoting, hok handle (by rw [hrun]), hrun]
      rfl
    · intro later
      have hline : later.line = handle.line := Handle.line_operations ops (handle, s')
      refine ⟨hline, ?_⟩
      obtain ⟨hsame, hvalues⟩ := Prod.mk.inj hline
      rw [hsame, (Prod.mk.inj hvalues).1, hdatadir, harguments, datadir_launchArguments hneeds]
    · rw [hetherbase]
      exact hflags hpath "--etherbase" (by decide) (by decide)
    · have hown := launchArguments_own
        (needsScratch_again hneeds (hagain.trans harguments) hscratch)
      refine ⟨fun l hl => ?_, fun handle' t' hrun' => ?_⟩
      · obtain ⟨hneeds', hl'⟩ := hnotes world config' base' again t l hl
        rw [hl', hown _ hneeds', hagain]
      · obtain ⟨hneeds', harguments', -⟩ := run_says hrun'
        rw [harguments', hown _ hneeds', hagain]

/-- A flag at the end of a command line has no value, so it is given one in front. -/
theorem line_of_run_last_flag :
    let c : Command :=
      { program := "node", name := "node",
        arguments := ["--etherbase=0xabc", "console", "--datadir"] }
    ∃ handle s', run Trial.Bench.world {} "/tmp" c {} = (.ok handle, s') ∧
      handle.arguments = "--datadir" :: "/tmp/node-datadir-" :: c.arguments ∧
      handle.datadir = some "/tmp/node-datadir-" ∧ handle.etherbase = some "0xabc" := by
  intro c
  have hsuccess : (run Trial.Bench.world {} "/tmp" c {}).1.toOption.isSome = true := by
    decide +kernel
  have hmade : made? Trial.Bench.world "/tmp" c {} = some "/tmp/node-datadir-" := by
    decide +kernel
  obtain ⟨-, hstarts, hruns⟩ := line_of_run Trial.Bench.world {} "/tmp" c {}
  rcases hrun : run Trial.Bench.world {} "/tmp" c {} with ⟨e | handle, s'⟩
  · rw [hrun] at hsuccess
    cases hsuccess
  · obtain ⟨hnoted, hlater, hflags, -⟩ := hruns handle s' hrun
    obtain ⟨path, hpath, harguments⟩ := (hstarts
      (processOf {} c handle.arguments handle.workingDir) (by simp [hnoted])).1 (by decide)
    obtain rfl := Option.some.inj (hmade.symm.trans hpath)
    have hline : handle.arguments = "--datadir" :: "/tmp/node-datadir-" :: c.arguments := harguments
    have hdatadir : handle.datadir = Command.flagValue? "--datadir" handle.arguments :=
      (hlater []).2
    refine ⟨handle, s', rfl, hline, ?_, ?_⟩
    · rw [hdatadir, hline]
      exact Command.flagValue?_alone _ _
    · have hdashed : ∀ path, made? Trial.Bench.world "/tmp" c {} = some path →
          ¬Command.Dashed path := by
        intro path hother
        obtain rfl := Option.some.inj (hmade.symm.trans hother)
        decide
      rw [(hflags hdashed).2]
      exact Command.flagValue?_joined "--etherbase" "0xabc" ["console", "--datadir"]

end Launch
end DaemonDialogue
