import Findings.Proofs.Process.Steps

/-!
Contract: capturing never gets stuck, loses nothing, and returns nothing in part.

Owns:
- `Sound`, what every step keeps: the octets of a stream are what its drain took
  and what is left in its pipe, a stream ends only after all writers, and only a
  limit that passed stops a drain;
- progress: as long as the capture has not returned, something other than the
  limit can happen;
- the results: all that was written, or that the limit passed.

Does not own: how long a capture takes.
-/

namespace Findings.Capturing

variable {setup : Setup} {state after : State setup} {action : Action setup}

/-! ## What is written -/

/-- The octets of writes, each with its stream, in order. -/
def tagged (writes : List StreamWrite) : List (Stream × UInt8) :=
  writes.flatMap fun write => write.octets.map (write.stream, ·)

theorem tagged_append (first second : List StreamWrite) :
    tagged (first ++ second) = tagged first ++ tagged second :=
  List.flatMap_append

/-- A write may come into its pipe in two pieces. -/
theorem tagged_split (write : StreamWrite) (later : List StreamWrite) (count : Nat) :
    tagged (write :: later)
      = tagged [⟨write.stream, write.octets.take count⟩]
        ++ tagged (⟨write.stream, write.octets.drop count⟩ :: later) := by
  have pieces : write.octets.map (write.stream, ·)
      = (write.octets.take count).map (write.stream, ·)
        ++ (write.octets.drop count).map (write.stream, ·) := by
    rw [← List.map_append, List.take_append_drop]
  simp only [tagged, List.flatMap_cons, List.flatMap_nil, List.append_nil, List.append_assoc,
    pieces]

theorem octets_put
    {writer : setup.Writer}
    {write : StreamWrite}
    {later : List StreamWrite}
    {count : Nat}
    (stream : Stream) :
    (state.put writer write later count).octets stream
      = if write.stream = stream then state.octets stream ++ write.octets.take count
        else state.octets stream := by
  by_cases same : write.stream = stream <;>
    simp [State.octets, State.timeline, State.put, Timeline.octets, List.filter_append, same]

theorem writesOf_put
    {writer : setup.Writer}
    {write : StreamWrite}
    {later : List StreamWrite}
    {count : Nat}
    (other : setup.Writer) :
    (state.put writer write later count).writesOf other
      = if writer = other then
          state.writesOf other ++ [⟨write.stream, write.octets.take count⟩]
        else state.writesOf other := by
  by_cases same : writer = other <;>
    simp [State.writesOf, State.put, List.filter_append, same]

/-! ## What every step keeps -/

/-- Nothing is lost between the writers and the drains. -/
structure Sound (state : State setup) : Prop where
  /-- What came into a pipe was taken out or is still there. -/
  flow : ∀ {stream taken}, state.drains stream = .reading taken →
    state.octets stream = taken ++ state.pipes stream
  /-- A stream ends after all writers. -/
  done : ∀ {stream text}, state.drains stream = .done text →
    (∀ writer, state.scripts writer = none)
      ∧ text = String.ofList (Text.decodeLossy (state.octets stream))
  unheard : ∀ {stream}, state.drains stream = .aborted → state.killed = true
  /-- What a writer wrote is what it was to write, but for the rest. -/
  delivered : state.killed = false → ∀ writer,
    tagged (setup.scripts writer)
      = tagged (state.writesOf writer) ++ tagged ((state.scripts writer).getD [])
  /-- Only a limit that passed makes the capture kill the program. -/
  killed : state.killed = true → ∃ limit, setup.limit = some limit
    ∧ state.phase = .returned (.error (.timedOut limit))
    ∧ ∀ stream taken, state.drains stream ≠ .reading taken
  error : ∀ {error}, state.phase = .returned (.error error) → state.killed = true
  ok : ∀ {captured}, state.phase = .returned (.ok captured) →
    state.drains .stdout = .done captured.stdout ∧ state.drains .stderr = .done captured.stderr
      ∧ captured.exitCode = setup.exitCode

theorem sound_start : Sound (.start setup) where
  flow reading := by
    obtain rfl := Drain.reading.inj reading
    rfl
  done := nofun
  unheard := nofun
  delivered _ writer := by simp [State.start, State.writesOf, tagged]
  killed := nofun
  error := nofun
  ok := nofun

/-- A writer goes on without a change to the pipes: it has nothing less to write,
unless the capture was given up. -/
theorem Sound.goOn
    {writer : setup.Writer}
    {script : Option (List StreamWrite)}
    (sound : Sound state)
    (alive : state.scripts writer ≠ none)
    (same : state.killed = false →
      tagged (script.getD []) = tagged ((state.scripts writer).getD [])) :
    Sound (state.goOn writer script) where
  flow := sound.flow
  done finished := absurd ((sound.done finished).1 writer) alive
  unheard := sound.unheard
  delivered running other := by
    have kept := sound.delivered running other
    by_cases here : other = writer
    · subst here
      rw [← same running] at kept
      simpa [State.goOn, State.writesOf] using kept
    · simpa [State.goOn, State.writesOf, here] using kept
  killed := sound.killed
  error := sound.error
  ok := sound.ok

/-- What a writer puts into a pipe is what comes next in its script. -/
theorem Sound.put
    {writer : setup.Writer}
    {write : StreamWrite}
    {later : List StreamWrite}
    {count : Nat}
    (sound : Sound state)
    (next : state.scripts writer = some (write :: later)) :
    Sound (state.put writer write later count) where
  flow {stream taken} reading := by
    have kept := sound.flow reading
    rw [octets_put]
    by_cases same : write.stream = stream
    · subst same
      simp [State.put, kept]
    · simp [State.put, same, Ne.symm same, kept]
  done finished := by
    have ended := (sound.done finished).1 writer
    rw [next] at ended
    contradiction
  unheard := sound.unheard
  delivered running other := by
    have kept := sound.delivered running other
    rw [writesOf_put]
    by_cases here : writer = other
    · subst here
      rw [kept, next, Option.getD_some, tagged_split write later count, if_pos rfl, tagged_append,
        List.append_assoc]
      simp [State.put]
    · simpa [State.put, here, Ne.symm here] using kept
  killed := sound.killed
  error := sound.error
  ok := sound.ok

/-- What a drain takes is what stands first in its pipe. -/
theorem Sound.take
    {stream : Stream}
    {taken : List UInt8}
    {count : Nat}
    (sound : Sound state)
    (reading : state.drains stream = .reading taken) :
    Sound (state.take stream taken count) where
  flow {other read} drained := by
    have octets : (state.take stream taken count).octets other = state.octets other := rfl
    rw [octets]
    by_cases same : other = stream
    · subst same
      have read_eq : taken ++ (state.pipes other).take count = read := by
        simpa [State.take] using drained
      rw [sound.flow reading, ← read_eq]
      simp [State.take]
    · have kept : state.drains other = .reading read := by
        simpa [State.take, same] using drained
      rw [sound.flow kept]
      simp [State.take, same]
  done {other text} finished := by
    by_cases same : other = stream
    · subst same
      simp [State.take] at finished
    · exact sound.done (by simpa [State.take, same] using finished)
  unheard {other} aborted := by
    by_cases same : other = stream
    · subst same
      simp [State.take] at aborted
    · exact sound.unheard (by simpa [State.take, same] using aborted)
  delivered := sound.delivered
  killed told := by
    obtain ⟨_, _, _, stopped⟩ := sound.killed told
    exact absurd reading (stopped stream taken)
  error failed := sound.error failed
  ok {captured} returned := by
    have finished := sound.ok returned
    have other : ∀ text, state.drains stream ≠ .done text := by simp [reading]
    cases stream with
    | stdout => exact absurd finished.1 (other _)
    | stderr => exact absurd finished.2.1 (other _)

/-- A drain that finishes has taken all that was written. -/
theorem Sound.finish
    {stream : Stream}
    {taken : List UInt8}
    (sound : Sound state)
    (reading : state.drains stream = .reading taken)
    (empty : state.pipes stream = [])
    (closed : ∀ writer, state.scripts writer = none) :
    Sound (state.finish stream taken) where
  flow {other read} drained := by
    have different : other ≠ stream := by
      rintro rfl
      simp [State.finish] at drained
    exact sound.flow (by simpa [State.finish, different] using drained)
  done {other text} finished := by
    refine ⟨closed, ?_⟩
    by_cases same : other = stream
    · subst same
      have octets := sound.flow reading
      rw [empty, List.append_nil] at octets
      have decoded : String.ofList (Text.decodeLossy taken) = text := by
        simpa [State.finish] using finished
      rw [← decoded, ← octets]
      rfl
    · exact (sound.done (by simpa [State.finish, same] using finished)).2
  unheard {other} aborted := by
    by_cases same : other = stream
    · subst same
      simp [State.finish] at aborted
    · exact sound.unheard (by simpa [State.finish, same] using aborted)
  delivered := sound.delivered
  killed told := by
    obtain ⟨_, _, _, stopped⟩ := sound.killed told
    exact absurd reading (stopped stream taken)
  error failed := sound.error failed
  ok {captured} returned := by
    have finished := sound.ok returned
    have other : ∀ text, state.drains stream ≠ .done text := by simp [reading]
    cases stream with
    | stdout => exact absurd finished.1 (other _)
    | stderr => exact absurd finished.2.1 (other _)

theorem Sound.giveUp
    {limit : Nat}
    (sound : Sound state)
    (bounded : setup.limit = some limit) :
    Sound (state.giveUp limit) where
  flow {stream taken} reading := by
    cases before : state.drains stream <;> simp [State.giveUp, before, Drain.abort] at reading
  done {stream text} finished := by
    cases before : state.drains stream with
    | done earlier =>
        obtain rfl : earlier = text := by simpa [State.giveUp, before, Drain.abort] using finished
        exact sound.done before
    | _ => simp [State.giveUp, before, Drain.abort] at finished
  unheard _ := rfl
  delivered := nofun
  killed _ := by
    refine ⟨limit, bounded, rfl, fun stream taken => ?_⟩
    cases before : state.drains stream <;> simp [State.giveUp, before, Drain.abort]
  error _ := rfl
  ok := nofun

/-- What is true of a state is true after every step. -/
theorem Sound.step (sound : Sound state) (step : Step action state after) : Sound after := by
  cases step with
  | put next positive inside room heard => exact sound.put next
  | complete next =>
      apply sound.goOn (by simp [next])
      simp [next, tagged]
  | exit done =>
      apply sound.goOn (by simp [done])
      simp [done, tagged]
  | abandon next unheard =>
      apply sound.goOn (by simp [next])
      simp [sound.unheard unheard]
  | die told alive =>
      apply sound.goOn alive
      simp [told]
  | take reading positive inside => exact sound.take reading
  | finish reading empty closed => exact sound.finish reading empty closed
  | notice waiting ended =>
      exact
        { sound with
          killed := fun told => by
            obtain ⟨_, _, returned, _⟩ := sound.killed told
            rw [waiting] at returned
            contradiction
          error := nofun
          ok := nofun }
  | join joining first second =>
      exact
        { sound with
          killed := fun told => by
            obtain ⟨_, _, returned, _⟩ := sound.killed told
            rw [joining] at returned
            contradiction
          error := nofun
          ok := fun returned => by
            obtain rfl := Except.ok.inj (Phase.returned.inj returned)
            exact ⟨first, second, rfl⟩ }
  | expire bounded running => exact sound.giveUp bounded

theorem Reachable.sound (reachable : Reachable state) : Sound state :=
  reachable.induction sound_start fun step sound => sound.step step

/-- The program is told to end only if the limit has passed. -/
theorem Sound.not_killed
    (sound : Sound state)
    (notFailed : ∀ error, state.phase ≠ .returned (.error error)) :
    state.killed = false := by
  rw [Bool.eq_false_iff]
  intro told
  obtain ⟨_, _, failed, _⟩ := sound.killed told
  exact notFailed _ failed

theorem Sound.not_aborted (sound : Sound state) (running : state.killed = false) (stream : Stream) :
    state.drains stream ≠ .aborted := by
  intro aborted
  rw [sound.unheard aborted] at running
  contradiction

/-! ## Progress -/

/-- Something other than the limit can happen. -/
def GoesOn (state : State setup) : Prop :=
  ∃ action after, action ≠ .expire ∧ Step action state after

/-- A drain that still reads can take an octet if there is one. -/
theorem goesOn_of_waiting_octets
    {stream : Stream}
    {taken : List UInt8}
    (reading : state.drains stream = .reading taken)
    (waiting : 0 < (state.pipes stream).length) :
    GoesOn state :=
  ⟨.take stream 1, _, by simp, .take reading Nat.one_pos waiting⟩

/-- A writer that has not ended can write or end, unless its pipe is full, and then
the drain of the pipe can read. -/
theorem Sound.goesOn_of_alive
    {writer : setup.Writer}
    (sound : Sound state)
    (running : state.killed = false)
    (alive : state.scripts writer ≠ none) :
    GoesOn state := by
  obtain ⟨script, next⟩ := Option.ne_none_iff_exists'.mp alive
  match script with
  | [] => exact ⟨.exit writer, _, by simp, .exit next⟩
  | ⟨stream, []⟩ :: later => exact ⟨.complete writer, _, by simp, .complete next⟩
  | ⟨stream, octet :: octets⟩ :: later =>
      have heard := sound.not_aborted running stream
      by_cases room : (state.pipes stream).length + 1 ≤ setup.capacity stream
      · exact ⟨.put writer 1, _, by simp, .put next Nat.one_pos (by simp) room heard⟩
      · -- the pipe is full, so its drain, which cannot have come to an end, can read
        have full : 0 < (state.pipes stream).length := by
          have roomy := setup.roomy stream
          omega
        cases drain : state.drains stream with
        | reading taken => exact goesOn_of_waiting_octets drain full
        | done text => exact absurd ((sound.done drain).1 writer) alive
        | aborted => exact absurd drain heard

/-- A drain that still reads is no reason to be stuck. -/
theorem Sound.goesOn_of_reading
    {stream : Stream}
    {taken : List UInt8}
    (sound : Sound state)
    (running : state.killed = false)
    (reading : state.drains stream = .reading taken) :
    GoesOn state := by
  by_cases waiting : 0 < (state.pipes stream).length
  · exact goesOn_of_waiting_octets reading waiting
  · have empty : state.pipes stream = [] := List.length_eq_zero_iff.mp (by omega)
    by_cases closed : ∀ writer, state.scripts writer = none
    · exact ⟨.finish stream, _, by simp, .finish reading empty closed⟩
    · -- somebody still holds the pipe open, and can go on
      obtain ⟨writer, alive⟩ := not_forall.mp closed
      exact sound.goesOn_of_alive running alive

/-- The capture is never stuck: as long as it has not returned, something other
than the limit can happen. -/
theorem Sound.goesOn (sound : Sound state) (running : state.phase.result? = none) :
    GoesOn state := by
  have notKilled : state.killed = false := by
    apply sound.not_killed
    intro error failed
    rw [failed] at running
    contradiction
  cases phase : state.phase with
  | waiting =>
      by_cases ended : state.scripts setup.program = none
      · exact ⟨.notice, _, by simp, .notice phase ended⟩
      · exact sound.goesOn_of_alive notKilled ended
  | joining =>
      cases first : state.drains .stdout with
      | reading taken => exact sound.goesOn_of_reading notKilled first
      | aborted => exact absurd first (sound.not_aborted notKilled _)
      | done stdout =>
          cases second : state.drains .stderr with
          | reading taken => exact sound.goesOn_of_reading notKilled second
          | aborted => exact absurd second (sound.not_aborted notKilled _)
          | done stderr => exact ⟨.join, _, by simp, .join phase first second⟩
  | returned result =>
      rw [phase] at running
      contradiction

/-! ## Results -/

theorem result?_eq_some {phase : Phase} {result : Except ProcessError Captured} :
    phase.result? = some result ↔ phase = .returned result := by
  cases phase <;> simp [Phase.result?]

/-- A capture that returned a result got everything: all writers have ended, each has
written all that it was to write, and the streams are decoded as wholes. -/
theorem Sound.captured
    {captured : Captured}
    (sound : Sound state)
    (returned : state.phase = .returned (.ok captured)) :
    (∀ writer, state.scripts writer = none)
      ∧ (∀ writer, tagged (state.writesOf writer) = tagged (setup.scripts writer))
      ∧ captured = (state.timeline none).captured := by
  obtain ⟨first, second, code⟩ := sound.ok returned
  obtain ⟨ended, stdout⟩ := sound.done first
  obtain ⟨-, stderr⟩ := sound.done second
  have notKilled : state.killed = false := sound.not_killed (by simp [returned])
  refine ⟨ended, fun writer => ?_, ?_⟩
  · have delivered := sound.delivered notKilled writer
    rw [ended writer] at delivered
    simpa [tagged] using delivered.symm
  · obtain ⟨out, err, exitCode⟩ := captured
    obtain rfl : exitCode = setup.exitCode := code
    obtain rfl : out = _ := stdout
    obtain rfl : err = _ := stderr
    rfl

/-- A capture that returned without a result did so because its limit passed. -/
theorem Sound.failed {error : ProcessError} (sound : Sound state)
    (returned : state.phase = .returned (.error error)) :
    ∃ limit, setup.limit = some limit ∧ error = .timedOut limit := by
  obtain ⟨limit, bounded, failed, _⟩ := sound.killed (sound.error returned)
  rw [returned] at failed
  exact ⟨limit, bounded, Except.error.inj (Phase.returned.inj failed)⟩

/-- A capture that returned stays as it is. -/
theorem Step.keeps_result
    {result : Except ProcessError Captured}
    (step : Step action state after)
    (returned : state.phase = .returned result) :
    after.phase = .returned result := by
  cases step with
  | notice waiting ended =>
      rw [returned] at waiting
      contradiction
  | join joining first second =>
      rw [returned] at joining
      contradiction
  | expire bounded running =>
      rw [returned] at running
      contradiction
  | _ => exact returned

/-- A capture that has returned does not return again. -/
theorem Run.keeps_result
    {actions : List (Action setup)}
    {result : Except ProcessError Captured}
    (run : Run actions state after)
    (returned : state.phase = .returned result) :
    after.phase = .returned result := by
  induction run with
  | nil => exact returned
  | cons step _ inductionHypothesis => exact inductionHypothesis (step.keeps_result returned)

theorem Reachable.run
    {actions : List (Action setup)}
    (reachable : Reachable state)
    (run : Run actions state after) :
    Reachable after := by
  obtain ⟨before, earlier⟩ := reachable
  exact ⟨_, earlier.append run⟩

theorem Reachable.step (reachable : Reachable state) (step : Step action state after) :
    Reachable after :=
  reachable.run (.cons step .nil)

/-- A run comes to what its timeline is captured as, if the time that it took is within
the limit exactly if there is a result. -/
theorem Reachable.timeline_capture
    {result : Except ProcessError Captured}
    {time : Nat}
    (reachable : Reachable state)
    (returned : state.phase.result? = some result)
    (inTime : ∀ limit, setup.limit = some limit →
      (time < limit ↔ ∃ captured, result = .ok captured)) :
    (state.timeline (some time)).capture setup.limit = some result := by
  have sound := reachable.sound
  have returned := result?_eq_some.mp returned
  cases result with
  | ok captured =>
      obtain ⟨-, -, same⟩ := sound.captured returned
      have content : (state.timeline (some time)).captured = captured := same.symm
      cases bounded : setup.limit with
      | none => simp [Timeline.capture, State.timeline, ← content]
      | some limit =>
          have early : time < limit := (inTime limit bounded).mpr ⟨captured, rfl⟩
          simp [Timeline.capture, State.timeline, early, ← content]
  | error error =>
      obtain ⟨limit, bounded, rfl⟩ := sound.failed returned
      have late : ¬ time < limit := by simp [inTime limit bounded]
      simp [Timeline.capture, State.timeline, bounded, late]

/-- In every state that any interleaving comes to:
- a capture that has not returned can go on, even if no limit ever passes;
- a capture that returned a result got all that was written, in order, each stream by
  itself;
- the limit may pass at any moment before, and from then on the result is that it
  passed, the program was told to end, and no drain reads on;
- nothing else makes a capture return without a result. -/
theorem capture_safe (reachable : Reachable state) :
    (state.phase.result? = none →
        ∃ action after, action ≠ .expire ∧ Step action state after)
      ∧ (∀ captured, state.phase.result? = some (.ok captured) →
        (∀ writer, state.scripts writer = none)
          ∧ (∀ writer, tagged (state.writesOf writer) = tagged (setup.scripts writer))
          ∧ captured = (state.timeline none).captured)
      ∧ (∀ limit, setup.limit = some limit → state.phase.result? = none →
        ∃ after, Step .expire state after
          ∧ ∀ actions later, Run actions after later →
            later.phase.result? = some (.error (.timedOut limit)) ∧ later.killed = true
              ∧ ∀ stream taken, later.drains stream ≠ .reading taken)
      ∧ (∀ error, state.phase.result? = some (.error error) →
        ∃ limit, setup.limit = some limit ∧ error = .timedOut limit) := by
  have sound := reachable.sound
  refine ⟨sound.goesOn, ?_, ?_, ?_⟩
  · intro captured returned
    exact sound.captured (result?_eq_some.mp returned)
  · intro limit bounded running
    have step : Step .expire state (state.giveUp limit) := .expire bounded running
    refine ⟨state.giveUp limit, step, fun actions later run => ?_⟩
    have failed : later.phase = .returned (.error (.timedOut limit)) := run.keeps_result rfl
    have laterSound := ((reachable.step step).run run).sound
    have told := laterSound.error failed
    obtain ⟨_, _, _, stopped⟩ := laterSound.killed told
    exact ⟨result?_eq_some.mpr failed, told, stopped⟩
  · intro error failed
    exact sound.failed (result?_eq_some.mp failed)

/-- A program that writes a character of two octets, through pipes of one octet, and a
descendant that writes to both streams. -/
def lateWriter : Setup where
  descendants := 1
  scripts writer :=
    if writer = 0 then [⟨.stdout, [0xC3, 0xA9]⟩] else [⟨.stderr, [0x21]⟩, ⟨.stdout, [0x2E]⟩]
  capacity _ := 1
  roomy _ := Nat.one_pos
  exitCode := some 3
  limit := some 1000

/-- The descendant writes after the program has ended, and the character is read in
two pieces. -/
def lateRun : List (Action lateWriter) :=
  [.put 0 1, .put 1 1, .take .stdout 1, .put 0 1, .complete 0, .exit 0, .notice,
    .take .stdout 1, .complete 1, .put 1 1, .complete 1, .exit 1, .take .stdout 1,
    .finish .stdout, .take .stderr 1, .finish .stderr, .join]

theorem capture_safe_lateWriter :
    ∃ state : State lateWriter, Reachable state
      ∧ state.phase.result? = some (.ok ⟨"é.", "!", some 3⟩)
      ∧ tagged (state.writesOf 1) = [(.stderr, 0x21), (.stdout, 0x2E)] := by
  have computed : ((run? lateRun (.start lateWriter)).bind fun state => state.phase.result?)
      = some (.ok ⟨"é.", "!", some 3⟩) := by
    rfl
  obtain ⟨state, ran, returned⟩ := Option.bind_eq_some_iff.mp computed
  have reachable : Reachable state := ⟨lateRun, run_of_run? ran⟩
  obtain ⟨ended, delivered, whole⟩ := (capture_safe reachable).2.1 _ returned
  exact ⟨state, reachable, returned, delivered 1⟩

end Findings.Capturing
