import DaemonDialogue.Proofs.Template.Alike
import DaemonDialogue.Proofs.Template.RoundTrip
import DaemonDialogue.Proofs.Trial.Stage

/-!
# Renderings and the input

The actions of a template write lines to the input of a daemon while it is rendered. What a
template expands to has nothing to do with that input: it may be open, or closed, or break in any
action, as long as the template functions answer alike. The lines get to the daemon as they are
met, unless the input breaks; where an action just misses a daemon that is gone, a line that a test
writes by itself fails.
-/

namespace DaemonDialogue

/-! ## What is told apart -/

def Template.Site.lineBytes : Template.Site → List UInt8
  | .act "InputLine" line _ => Utf8.encode line ++ [Newline.lineFeed]
  | _ => []

/-- The bytes of all lines that are written along some sites. -/
def Template.Site.input (sites : List Template.Site) : List UInt8 :=
  sites.flatMap lineBytes

namespace Daemon

/-- What template functions see of a state, what a process was given on its input, and which
states can come about. -/
structure Inlet (σ ν : Type) where
  seen : σ → ν
  given : σ → List UInt8
  stands : σ → Prop

variable {σ ν : Type}

/-- Can two states come about that template functions do not tell apart? -/
structure Inlet.Alike (i : Inlet σ ν) (s s' : σ) : Prop where
  left : i.stands s
  right : i.stands s'
  seen : i.seen s = i.seen s'

/-- A world in which a write gives just its bytes to a process, or fails because the input is
broken; neither the log nor template functions give anything to it. The functions of a handle
answer as what they see tells them, which is the same whatever becomes of a write. -/
structure Inlet.Sound (i : Inlet σ ν) (w : World σ) (h : Handle σ) : Prop where
  log : ∀ {s} level message context, i.stands s →
    i.Alike s (w.log level message context s) ∧ i.given (w.log level message context s) = i.given s
  write : ∀ {s} bytes, i.stands s → i.Alike s (w.write h.pid bytes s).2
  written : ∀ {s s' bytes}, i.stands s → w.write h.pid bytes s = (.ok (), s') →
    i.given s' = i.given s ++ bytes
  broken : ∀ {s s' bytes fault}, i.stands s → w.write h.pid bytes s = (.error fault, s') →
    fault.isBrokenPipe = true
  call : ∀ {s s' name value}, i.stands s → h.functions.call? name s = some (value, s') →
    i.given s' = i.given s
  answers : ∀ name, h.functions.AgreeOn i.Alike h.functions name

theorem Inlet.Alike.refl {i : Inlet σ ν} {s : σ} (h : i.stands s) : i.Alike s s := ⟨h, h, rfl⟩

theorem Inlet.Alike.symm {i : Inlet σ ν} {s s' : σ} (h : i.Alike s s') : i.Alike s' s :=
  ⟨h.right, h.left, h.seen.symm⟩

theorem Inlet.Alike.trans {i : Inlet σ ν} {s s' s'' : σ} (h : i.Alike s s')
    (hnext : i.Alike s' s'') : i.Alike s s'' :=
  ⟨h.left, hnext.right, h.seen.trans hnext.seen⟩

end Daemon

/-! ## Inputs on a stage -/

theorem Script.Pipe.bytes_add (p : Script.Pipe) (bytes : List UInt8) :
    (p.add bytes).bytes = p.bytes ++ bytes := by
  have hbytes (p : Script.Pipe) : p.bytes = p.front ++ p.back.reverse := by
    unfold Script.Pipe.bytes
    split_ifs with hback
    · rw [List.isEmpty_iff.1 hback, List.reverse_nil, List.append_nil]
    · rfl
  rw [hbytes, hbytes, Script.Pipe.add, List.reverse_append, List.reverse_reverse,
    List.append_assoc]

namespace Trial.Stage

def waiting (pid : Nat) (s : Stage) : List UInt8 :=
  ((s.input? pid).map fun id => (s.machine.pipe id).bytes).getD []

def HasInput (pid : Nat) (s : Stage) : Prop :=
  ∃ id, s.input? pid = some id ∧ (s.machine.pipes.lookup id).isSome = true

/-- The input of a process on a stage, for functions that see nothing. -/
def inlet (pid : Nat) : Daemon.Inlet Stage Unit where
  seen _ := ()
  given := waiting pid
  stands := HasInput pid

variable {s s' : Stage} {pid : Nat} {bytes : List UInt8}

/-- A write goes to the pipe of the input if there is a reader, and is otherwise not made. -/
theorem write_cases (h : s.HasInput pid) (bytes : List UInt8) :
    (∃ id p, s.input? pid = some id ∧ s.machine.pipes.lookup id = some p ∧
      s.write pid bytes = (.ok (), { s with machine := s.machine.putPipe id (p.add bytes) })) ∨
    s.write pid bytes = (.error .brokenPipe, s) := by
  obtain ⟨id, hid, hpipe⟩ := h
  obtain ⟨p, hp⟩ := Option.isSome_iff_exists.1 hpipe
  have hfeed : s.machine.feed id bytes = if s.machine.hasReader id then
      (s.machine.putPipe id (p.add bytes), true) else (s.machine, false) := by
    rw [Script.Machine.feed, Script.Machine.pipe, hp, Option.getD_some]
  unfold write
  rw [hid]
  dsimp only
  rw [hfeed]
  by_cases hreader : s.machine.hasReader id = true
  · rw [if_pos hreader]
    exact .inl ⟨id, p, rfl, hp, rfl⟩
  · rw [if_neg hreader]
    exact .inr rfl

theorem hasInput_write (h : s.HasInput pid) : (s.write pid bytes).2.HasInput pid := by
  rcases write_cases h bytes with ⟨id, p, hid, hp, hwrite⟩ | hwrite
  · rw [hwrite]
    refine ⟨id, hid, ?_⟩
    rw [Script.Machine.putPipe, lookup_renewed, if_pos rfl, hp]
    rfl
  · rwa [hwrite]

theorem waiting_write (h : s.HasInput pid) (hok : s.write pid bytes = (.ok (), s')) :
    s'.waiting pid = s.waiting pid ++ bytes := by
  rcases write_cases h bytes with ⟨id, p, hid, hp, hwrite⟩ | hwrite
  · rw [hwrite] at hok
    cases hok
    have hid' : input? pid { s with machine := s.machine.putPipe id (p.add bytes) } = some id := hid
    rw [waiting, waiting, hid, hid', Option.map_some, Option.map_some, Script.Machine.pipe,
      Script.Machine.pipe, Script.Machine.putPipe, lookup_renewed, if_pos rfl, hp]
    exact p.bytes_add bytes
  · rw [hwrite] at hok
    cases hok

/-- On a stage only what is written to its input is given to a process. -/
theorem inlet_sound {h : Handle Stage} (hfixed : h.functions.Fixed) :
    (inlet h.pid).Sound world h where
  log _ _ _ hs := ⟨⟨hs, hs, rfl⟩, rfl⟩
  write _ hs := ⟨hs, hasInput_write hs, rfl⟩
  written := waiting_write
  broken {s s' bytes fault} hs herror := by
    rcases write_cases hs bytes with ⟨id, p, -, -, hwrite⟩ | hwrite
    all_goals
      obtain ⟨hresult, -⟩ := Prod.mk.inj (hwrite.symm.trans herror)
      cases hresult
    rfl
  call _ hcall := by rw [(hfixed _ _ _ _ hcall).1]
  answers := hfixed.agreeOn

end Trial.Stage

namespace Handle

open Daemon (Inlet World)
open Template (Site)

variable {σ ν : Type} {w : World σ} {i : Inlet σ ν} {h : Handle σ} {s s' : σ}

/-! ## Lines -/

theorem writeInput_closed (hclosed : h.inputOpen = false) (line : String) (s : σ) :
    h.writeInput w line s = (.error .inputClosed, s) := by
  rw [writeInput, hclosed]
  rfl

theorem writeInput_alike (hi : i.Sound w h) (line : String) (hs : i.stands s) :
    i.Alike s (h.writeInput w line s).2 := by
  unfold writeInput
  split_ifs
  · obtain ⟨hlog, -⟩ := hi.log .debug ("stdin <- " ++ line) [] hs
    exact hlog.trans (hi.write _ hlog.right)
  · exact .refl hs

theorem writeInput_ok (hi : i.Sound w h) {line : String} (hs : i.stands s)
    (hok : h.writeInput w line s = (.ok (), s')) :
    i.given s' = i.given s ++ (Utf8.encode line ++ [Newline.lineFeed]) := by
  unfold writeInput at hok
  split_ifs at hok
  · obtain ⟨hlog, hgiven⟩ := hi.log .debug ("stdin <- " ++ line) [] hs
    rw [hi.written hlog.right hok]
    exact congrArg (· ++ _) hgiven
  · cases hok

theorem writeInput_error (hi : i.Sound w h) {line : String} {fault : SystemFault}
    (hs : i.stands s) (herror : h.writeInput w line s = (.error fault, s')) :
    fault.isBrokenPipe = true := by
  unfold writeInput at herror
  split_ifs at herror
  · exact hi.broken (hi.log .debug ("stdin <- " ++ line) [] hs).1.right herror
  · cases herror
    rfl

/-- An action that writes a line inserts nothing, whatever becomes of the line. -/
theorem inputLine_answer (hi : i.Sound w h) (line : String) (hs : i.stands s) :
    (h.inputLine w line s).2 = .ok "" ∧ i.Alike s (h.inputLine w line s).1 := by
  have hwrite := writeInput_alike hi line hs
  unfold inputLine
  rcases hresult : h.writeInput w line s with ⟨fault | _, s'⟩
  all_goals rw [hresult] at hwrite
  · have hbroken := writeInput_error hi hs hresult
    dsimp only
    rw [if_pos hbroken]
    exact ⟨rfl, hwrite.trans (hi.log .debug _ [] hwrite.right).1⟩
  · exact ⟨rfl, hwrite⟩

/-- A line gets to the process if the input is open and the write of its bytes succeeds. -/
theorem inputLine_given (hi : i.Sound w h) (hopen : h.inputOpen = true) {line : String}
    (hs : i.stands s)
    (hwritten : (w.write h.pid (Utf8.encode line ++ [Newline.lineFeed])
      (w.debug ("stdin <- " ++ line) s)).1 = .ok ()) :
    i.given (h.inputLine w line s).1 = i.given s ++ (Utf8.encode line ++ [Newline.lineFeed]) := by
  have hok : (h.writeInput w line s).1 = .ok () := by rwa [writeInput, if_pos hopen]
  unfold inputLine
  rcases hresult : h.writeInput w line s with ⟨fault | _, s'⟩
  all_goals rw [hresult] at hok
  · cases hok
  · exact writeInput_ok hi hs hresult

theorem inputLine_closed (hi : i.Sound w h) (hclosed : h.inputOpen = false) (line : String)
    (hs : i.stands s) : i.given (h.inputLine w line s).1 = i.given s := by
  rw [inputLine, writeInput_closed hclosed]
  exact (hi.log .debug _ [] hs).2

/-! ## Sites -/

theorem act_input (h : Handle σ) (line : String) (s : σ) :
    (h.scope w).act s "InputLine" line = h.inputLine w line s := rfl

theorem act_other (h : Handle σ) {name : String} (hname : name ≠ "InputLine") (line : String)
    (s : σ) : (h.scope w).act s name line = (s, .error (.unknownAction name)) := by
  unfold scope
  exact if_neg (by simpa using hname)

theorem scope_alike (hi : i.Sound w h) (opened : Bool) :
    (h.scope w).Alike i.Alike ({ h with inputOpen := opened }.scope w) where
  hasField _ := rfl
  field? _ := rfl
  hasAction _ := rfl
  act name line hs := by
    by_cases hname : name = "InputLine"
    · subst hname
      have hopened : i.Sound w { h with inputOpen := opened } :=
        ⟨hi.log, hi.write, hi.written, hi.broken, hi.call, hi.answers⟩
      obtain ⟨hvalue, hnext⟩ := inputLine_answer hi line hs.left
      obtain ⟨hvalue', hnext'⟩ := inputLine_answer hopened line hs.right
      rw [act_input, act_input, hvalue, hvalue']
      exact ⟨rfl, hnext.symm.trans (hs.trans hnext')⟩
    · rw [act_other h hname, act_other _ hname]
      exact ⟨rfl, hs⟩

/-- What happens at a site leads from states that can come about to others. -/
theorem stands_happens (hi : i.Sound w h) {site : Site} (hs : i.stands s)
    (hsite : site.Happens h.functions (h.scope w) s s') : i.stands s' := by
  have hcall {name value : String} (hcall : h.functions.call? name s = some (value, s')) :
      i.stands s' := by
    obtain ⟨next, -, hnext⟩ := (hi.answers name).call (.refl hs) hcall
    exact hnext.left
  cases site with
  | literal text => exact hsite ▸ hs
  | call name value => exact hcall hsite
  | test condition value => exact hcall hsite
  | field name value => exact hsite.2 ▸ hs
  | act name line value =>
    have hact := ((scope_alike hi h.inputOpen).act name line (.refl hs)).2.left
    rwa [show (h.scope w).act s name line = (s', .ok value) from hsite] at hact

/-- An input that is open, and in a world that writes the bytes of every line along some sites when
it is its turn, behind the entry in the log that announces the line. -/
structure TakesAll (h : Handle σ) (w : World σ) (s : σ) (sites : List Site) : Prop where
  opened : h.inputOpen = true
  written : ∀ before line value behind s',
    sites = before ++ .act "InputLine" line value :: behind →
      Site.HappenAll h.functions (h.scope w) s before s' →
        (w.write h.pid (Utf8.encode line ++ [Newline.lineFeed])
          (w.debug ("stdin <- " ++ line) s')).1 = .ok ()

theorem given_happens (hi : i.Sound w h) {site : Site} (hs : i.stands s)
    (hsite : site.Happens h.functions (h.scope w) s s') :
    (h.TakesAll w s [site] → i.given s' = i.given s ++ site.lineBytes) ∧
      (h.inputOpen = false → i.given s' = i.given s) := by
  have hsame (hgiven : i.given s' = i.given s) (hno : site.lineBytes = []) :
      (h.TakesAll w s [site] → i.given s' = i.given s ++ site.lineBytes) ∧
        (h.inputOpen = false → i.given s' = i.given s) := by
    rw [hno, List.append_nil]
    exact ⟨fun _ => hgiven, fun _ => hgiven⟩
  cases site with
  | literal text => exact hsame (congrArg i.given hsite) rfl
  | call name value => exact hsame (hi.call hs hsite) rfl
  | test condition value => exact hsame (hi.call hs hsite) rfl
  | field name value => exact hsame (congrArg i.given hsite.2) rfl
  | act name line value =>
    have hact : (h.scope w).act s name line = (s', .ok value) := hsite
    by_cases hname : name = "InputLine"
    · subst hname
      rw [act_input] at hact
      have hnext : (h.inputLine w line s).1 = s' := congrArg Prod.fst hact
      constructor
      · intro htakes
        rw [← hnext]
        exact inputLine_given hi htakes.opened hs (htakes.written [] line value [] s rfl (.nil s))
      · intro hclosed
        rw [← hnext]
        exact inputLine_closed hi hclosed line hs
    · rw [act_other h hname] at hact
      cases hact

theorem TakesAll.of_cons {site : Site} {rest : List Site} (htakes : h.TakesAll w s (site :: rest))
    (hsite : site.Happens h.functions (h.scope w) s s') :
    h.TakesAll w s [site] ∧ h.TakesAll w s' rest := by
  constructor
  · refine ⟨htakes.opened, fun before line value behind s' hsites hbefore => ?_⟩
    refine htakes.written before line value (behind ++ rest) s' ?_ hbefore
    have happend : [site] ++ rest = _ := congrArg (· ++ rest) hsites
    rwa [List.append_assoc, List.cons_append] at happend
  · refine ⟨htakes.opened, fun before line value behind next hsites hbefore => ?_⟩
    exact htakes.written (site :: before) line value behind next (congrArg (site :: ·) hsites)
      (.cons hsite hbefore)

theorem given_happenAll (hi : i.Sound w h) {sites : List Site} (hs : i.stands s)
    (hsites : Site.HappenAll h.functions (h.scope w) s sites s') :
    i.stands s' ∧ (h.TakesAll w s sites → i.given s' = i.given s ++ Site.input sites) ∧
      (h.inputOpen = false → i.given s' = i.given s) := by
  induction hsites with
  | nil s =>
    refine ⟨hs, fun _ => ?_, fun _ => rfl⟩
    rw [Site.input, List.flatMap_nil, List.append_nil]
  | cons first behind ih =>
    obtain ⟨htaken, hclosed⟩ := given_happens hi hs first
    obtain ⟨hstands, htaken', hclosed'⟩ := ih (stands_happens hi hs first)
    refine ⟨hstands, fun htakes => ?_, fun hopen => (hclosed' hopen).trans (hclosed hopen)⟩
    obtain ⟨hsite, hrest⟩ := htakes.of_cons first
    rw [htaken' hrest, htaken hsite, List.append_assoc]
    rfl

/-! ## Renderings -/

/-- Behind a check that succeeds no action of a handle fails. -/
theorem render_completes (hi : i.Sound w h) {t : Template} (hs : i.stands s)
    (hcheck : t.check h.functions (h.scope w) s = .ok ()) :
    Template.Completes h.functions (h.scope w) t.nodes s (t.render h.functions (h.scope w) s) := by
  refine (Template.render_completes_or_stops hcheck (h.scope_keepsWord s)).resolve_right ?_
  rintro ⟨before, name, line, value, behind, between, next, e, hpath, hbefore, hact, -⟩
  have hmet : Site.act name line value ∈ before ++ .act name line value :: behind := by simp
  have hknown := (Template.Mention.verdict_eq_ok_iff _).1
    ((Template.check_eq_verdict t).symm.trans hcheck) (.action name)
    (Template.Node.mentionedOf t.nodes hpath hmet rfl)
  obtain rfl : name = "InputLine" := beq_iff_eq.1 hknown
  obtain ⟨hbetween, -, -⟩ := given_happenAll hi hs hbefore
  have hvalue := (inputLine_answer hi line hbetween).1
  rw [← act_input, hact] at hvalue
  cases hvalue

/-- What a template expands to does not depend on the input of a daemon: it is the same text or
the same error for an input that is open, that was closed before, or that breaks in any action.
With an error nothing at all happens. Otherwise the rendering goes along one path through the
template, and what the daemon is given are the lines of that path in their order, each with a line
feed behind it, if its input is open and no write to it fails; with a closed input it is given
nothing. A line that a test writes by itself fails then. -/
theorem render_apart_from_input (i : Inlet σ ν) (w : World σ) (h : Handle σ) (hi : i.Sound w h)
    (source : String) :
    (∀ opened s s', i.Alike s s' →
      (h.render w source s).1 = ({ h with inputOpen := opened }.render w source s').1) ∧
    (∀ e s, Template.read source = .error e →
      h.render w source s = (.error (.template e), s)) ∧
    (∀ t, Template.read source = .ok t →
      (∀ e s, t.check h.functions (h.scope w) s = .error e →
        h.render w source s = (.error (.template e), s)) ∧
      ∀ s, i.stands s → t.check h.functions (h.scope w) s = .ok () →
        ∃ sites s', Template.Node.PathOf t.nodes sites ∧
          Site.HappenAll h.functions (h.scope w) s sites s' ∧
          h.render w source s = (.ok (Site.text sites), s') ∧
          (h.TakesAll w s sites → i.given s' = i.given s ++ Site.input sites) ∧
          (h.inputOpen = false → i.given s' = i.given s)) ∧
    (h.inputOpen = false → ∀ line s,
      h.writeLine w line s = (.error (.system .inputClosed), s)) := by
  refine ⟨?_, ?_, ?_, ?_⟩
  · intro opened s s' hs
    unfold render
    cases Template.read source with
    | error e => rfl
    | ok t =>
      have hsame := Template.render_alike (scope_alike hi opened) hs t fun name _ => hi.answers name
      have hresult := hsame.result
      dsimp only
      rw [hresult]
      split <;> rfl
  · intro e s hread
    rw [render, hread]
  · intro t hread
    constructor
    · intro e s hcheck
      simp only [render, hread, Template.render, hcheck]
    · intro s hs hcheck
      obtain ⟨sites, s', hpath, hhappen, houtcome⟩ := render_completes hi hs hcheck
      obtain ⟨-, hgiven, hclosed⟩ := given_happenAll hi hs hhappen
      refine ⟨sites, s', hpath, hhappen, ?_, hgiven, hclosed⟩
      simp only [render, hread, houtcome]
  · intro hclosed line s
    rw [writeLine, writeInput_closed hclosed]

/-- A console that reads its input, or no longer does. -/
def consoleStage (reads : Bool) : Trial.Stage where
  machine := {
    processes := [{ pid := 7, descriptors := if reads then [(0, 0)] else [] }]
    openings := [(0, { target := .readEnd 0, reads := true })]
    pipes := [(0, { writtenOutside := true })] }
  ends := [⟨7, 0, 1, 2⟩]
  logger := { testName := "t" }

def console : Handle Trial.Stage where
  name := "console"
  program := "console"
  arguments := []
  workingDir := "/"
  pid := 7
  functions := .ofList [("reply", "bye")]

/-- What is expected of a console that is told to end behind its prompt. -/
def farewell : Template where
  source := "> \x7b\x7b.InputLine \"exit\"\x7d\x7d\x7b\x7breply\x7d\x7d"
  nodes := [.text "> ", .action "InputLine" "exit", .function "reply"]

theorem read_farewell : Template.read farewell.source = .ok farewell := by
  have hprint : Template.print farewell.nodes = farewell.source := by decide +kernel
  have hnormal : Template.NormalList true farewell.nodes := by
    simp [farewell, Template.NormalList, Template.Node.Normal, Template.EndsAt]
    decide
  rw [Template.read, ← hprint, Template.readNodes_print hnormal, hprint]
  rfl

/-- A dialogue with a console has the same text whether the console takes its line, or its input
is closed on this side and has no reader on the other. -/
theorem render_apart_from_input_console :
    let closed := { console with inputOpen := false }
    (closed.render Trial.Stage.world farewell.source (consoleStage false)).1 = .ok "> bye" ∧
      ∃ s', console.render Trial.Stage.world farewell.source (consoleStage true) =
          (.ok "> bye", s') ∧
        s'.waiting 7 = Utf8.encode "exit\n" := by
  intro closed
  have hsound := Trial.Stage.inlet_sound (h := console) (Template.Registry.fixed_ofList _)
  have hstage (reads : Bool) : (consoleStage reads).HasInput console.pid := ⟨0, rfl, rfl⟩
  obtain ⟨hsame, -, hrender, -⟩ :=
    render_apart_from_input _ Trial.Stage.world console hsound farewell.source
  obtain ⟨sites, s', hpath, hhappen, hresult, hgiven, -⟩ :=
    (hrender _ read_farewell).2 (consoleStage true) (hstage true) rfl
  have hsites : sites = [.literal "> ", .act "InputLine" "exit" "", .call "reply" "bye"] := by
    rcases hpath with _ | ⟨⟨⟩, _ | ⟨⟨_, _, line⟩, _ | ⟨⟨_, value⟩, ⟨⟩⟩⟩⟩
    rcases hhappen with _ | ⟨⟨⟩, _ | ⟨hact, _ | ⟨hcall, -⟩⟩⟩
    obtain ⟨-, hline⟩ := Prod.mk.inj hact
    obtain ⟨hvalue, -⟩ := Prod.mk.inj (Option.some.inj hcall)
    cases hline
    cases hvalue
    rfl
  subst hsites
  have htakes : console.TakesAll Trial.Stage.world (consoleStage true)
      [.literal "> ", .act "InputLine" "exit" "", .call "reply" "bye"] := by
    refine ⟨rfl, fun before line value behind between hsites hbefore => ?_⟩
    obtain ⟨rfl, ⟨rfl, rfl⟩, -⟩ := by simpa [List.cons_eq_append_iff] using hsites
    rcases hbefore with _ | ⟨⟨⟩, ⟨⟩⟩
    rfl
  refine ⟨?_, s', hresult, hgiven htakes⟩
  rw [← hsame false _ _ ⟨hstage true, hstage false, rfl⟩, hresult]
  rfl

end Handle
end DaemonDialogue
