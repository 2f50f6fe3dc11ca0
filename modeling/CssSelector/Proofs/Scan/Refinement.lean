import CssSelector.Context.Table
import CssSelector.Proofs.Scan.Stack

/-!
# Calls and turns

The recursive scan and the machine are bounded by fuel. Here both are described without it.
`Returns` says what a call of the recursion returns; its derivations are the finite trees of calls.
`turn` is one turn of the loop of the machine, and `Halts` counts turns. Whatever its contexts
answer, a scan has a finite tree of calls and the machine comes to a halt, both with the same
result, `scanContext_refines_machine`.
-/

set_option autoImplicit false

namespace CssSelector

namespace ContextFamily

/-- What an open context does at the cursor: it ends the scan, or it takes a token and is closed by
it, goes on behind it, or enters another context. -/
inductive Move (κ : Type) where
  | halt (verdict : Verdict ScanError Unit)
  | close (reached : Progress)
  | stay (reached : Progress)
  | enter (inner : κ) (reached : Progress)

/-- Where a token has led. -/
def Move.reached? {κ : Type} : Move κ → Option Progress
  | halt _ => none
  | close reached => some reached
  | stay reached => some reached
  | enter _ reached => some reached

section

variable {κ : Type} (family : ContextFamily κ) (preferences : ScanPreferences) (source : Source)

def move (context : κ) (progress : Progress) : Move κ :=
  if progress.offset < source.length then
    match family.next preferences source context progress with
    | .failed error => .halt (.failed error)
    | .fault cause => .halt (.fault cause)
    | .done token =>
        let reached := progress.accept preferences token
        if family.closes context token then .close reached
        else
          match family.opens? context token with
          | none => .stay reached
          | some inner => .enter inner reached
  else .halt (.done ())

/-- What the recursion is busy with: it is called for a context, or it goes through the tokens of
an open one. -/
inductive Task (κ : Type) where
  | call (context : κ)
  | loop (context : κ)

/-- What a task at a depth returns. A derivation is a finite tree of calls. -/
inductive Returns : Task κ → Nat → Progress → ScanStep → Prop where
  | tooDeep {context : κ} {depth : Nat} {progress : Progress} :
      maxContextDepth < depth →
      Returns (.call context) depth progress
        (progress, .failed (.contextTooDeep depth progress.offset))
  | left {context : κ} {depth : Nat} {progress behind : Progress} :
      depth ≤ maxContextDepth →
      Returns (.loop context) depth (progress.enter preferences (family.name context) depth)
        (behind, .done ()) →
      Returns (.call context) depth progress
        (behind.leave preferences (family.name context) depth, .done ())
  | cutOff {context : κ} {depth : Nat} {progress behind : Progress}
      {verdict : Verdict ScanError Unit} :
      depth ≤ maxContextDepth →
      Returns (.loop context) depth (progress.enter preferences (family.name context) depth)
        (behind, verdict) →
      verdict ≠ .done () →
      Returns (.call context) depth progress (behind, verdict)
  | halted {context : κ} {depth : Nat} {progress : Progress}
      {verdict : Verdict ScanError Unit} :
      family.move preferences source context progress = .halt verdict →
      Returns (.loop context) depth progress (progress, verdict)
  | closed {context : κ} {depth : Nat} {progress reached : Progress} :
      family.move preferences source context progress = .close reached →
      Returns (.loop context) depth progress (reached, .done ())
  | stayed {context : κ} {depth : Nat} {progress reached : Progress} {step : ScanStep} :
      family.move preferences source context progress = .stay reached →
      Returns (.loop context) depth reached step →
      Returns (.loop context) depth progress step
  | resumed {context inner : κ} {depth : Nat} {progress reached behind : Progress}
      {step : ScanStep} :
      family.move preferences source context progress = .enter inner reached →
      Returns (.call inner) (depth + 1) reached (behind, .done ()) →
      Returns (.loop context) depth behind step →
      Returns (.loop context) depth progress step
  | unwound {context inner : κ} {depth : Nat} {progress reached behind : Progress}
      {verdict : Verdict ScanError Unit} :
      family.move preferences source context progress = .enter inner reached →
      Returns (.call inner) (depth + 1) reached (behind, verdict) →
      verdict ≠ .done () →
      Returns (.loop context) depth progress (behind, verdict)

/-- One turn of the machine: what it goes on with, or what it comes to. -/
def turn : List κ → Progress → (List κ × Progress) ⊕ ScanStep
  | [], progress => .inr (progress, .done ())
  | context :: outer, progress =>
      match family.move preferences source context progress with
      | .halt verdict => .inr (progress, verdict)
      | .close reached => .inl (outer, reached)
      | .stay reached => .inl (context :: outer, reached)
      | .enter inner reached =>
          match openContext preferences inner (context :: outer) reached with
          | .ok entered => .inl entered
          | .error error => .inr (reached, .failed error)

/-- The machine comes to a halt after a number of turns. -/
inductive Halts : Nat → List κ × Progress → ScanStep → Prop where
  | now {opened : List κ} {progress : Progress} {step : ScanStep} :
      family.turn preferences source opened progress = .inr step →
      Halts 0 (opened, progress) step
  | later {opened : List κ} {progress : Progress} {state : List κ × Progress} {turns : Nat}
      {step : ScanStep} :
      family.turn preferences source opened progress = .inl state →
      Halts turns state step →
      Halts (turns + 1) (opened, progress) step

end

variable {κ : Type} {family : ContextFamily κ} {preferences : ScanPreferences} {source : Source}

/-! ## One token -/

theorem move_of_length_le {context : κ} {progress : Progress}
    (ended : source.length ≤ progress.offset) :
    family.move preferences source context progress = .halt (.done ()) :=
  if_neg (Nat.not_lt.mpr ended)

/-- All that a context can do at the cursor: it ends the scan, or it has a token that passes the
checks, and its family says what becomes of the open contexts. -/
theorem move_cases (context : κ) (progress : Progress) :
    (∃ verdict, family.move preferences source context progress = .halt verdict) ∨
      ∃ token, progress.offset < source.length ∧
        family.next preferences source context progress = .done token ∧
        ((family.closes context token = true ∧
            family.move preferences source context progress =
              .close (progress.accept preferences token)) ∨
          (¬family.closes context token = true ∧ family.opens? context token = none ∧
            family.move preferences source context progress =
              .stay (progress.accept preferences token)) ∨
          ∃ inner, ¬family.closes context token = true ∧
            family.opens? context token = some inner ∧
            family.move preferences source context progress =
              .enter inner (progress.accept preferences token)) := by
  rw [move]
  split
  · next inside =>
      cases produced : family.next preferences source context progress with
      | failed error => exact .inl ⟨_, rfl⟩
      | fault cause => exact .inl ⟨_, rfl⟩
      | done token =>
          refine .inr ⟨token, inside, rfl, ?_⟩
          dsimp only
          split
          · next closing => exact .inl ⟨closing, rfl⟩
          · next going =>
              cases opening : family.opens? context token with
              | none => exact .inr (.inl ⟨going, rfl, rfl⟩)
              | some inner => exact .inr (.inr ⟨inner, going, rfl, rfl⟩)
  · exact .inl ⟨_, rfl⟩

/-- A token is taken inside the source, and the cursor moves. -/
theorem offset_lt_of_move {context : κ} {progress reached : Progress}
    (taken : (family.move preferences source context progress).reached? = some reached) :
    progress.offset < source.length ∧ progress.offset < reached.offset := by
  rcases move_cases context progress with
    ⟨verdict, moved⟩ | ⟨token, inside, produced, moved⟩
  · rw [moved] at taken
    cases taken
  · have advanced := length_pos_of_next_eq_done produced
    have accepted : some (progress.accept preferences token) = some reached := by
      rcases moved with ⟨-, moved⟩ | ⟨-, -, moved⟩ | ⟨inner, -, -, moved⟩ <;>
        rwa [moved] at taken
    cases accepted
    exact ⟨inside, by rw [Scanning.offset_accept]; omega⟩

theorem runContext_succ (nested : κ → Progress → ScanStep) (context : κ) (fuel : Nat)
    (progress : Progress) :
    family.runContext preferences source nested context (fuel + 1) progress =
      match family.move preferences source context progress with
      | .halt verdict => (progress, verdict)
      | .close reached => (reached, .done ())
      | .stay reached => family.runContext preferences source nested context fuel reached
      | .enter inner reached =>
          match nested inner reached with
          | (behind, .done ()) => family.runContext preferences source nested context fuel behind
          | stopped => stopped := by
  rw [runContext, move]
  split
  · cases family.next preferences source context progress with
    | failed error => rfl
    | fault cause => rfl
    | done token =>
        dsimp only
        split
        · rfl
        · cases family.opens? context token with
          | none => rfl
          | some inner =>
              dsimp only
              generalize nested inner (progress.accept preferences token) = step
              obtain ⟨behind, verdict⟩ := step
              cases verdict <;> rfl
  · rfl

theorem runMachine_succ (fuel : Nat) (opened : List κ) (progress : Progress) :
    family.runMachine preferences source (fuel + 1) opened progress =
      match family.turn preferences source opened progress with
      | .inl (next, reached) => family.runMachine preferences source fuel next reached
      | .inr step => step := by
  cases opened with
  | nil => rfl
  | cons context outer =>
      rw [runMachine, turn, move]
      split
      · cases family.next preferences source context progress with
        | failed error => rfl
        | fault cause => rfl
        | done token =>
            dsimp only
            split
            · rfl
            · cases family.opens? context token with
              | none => rfl
              | some inner =>
                  dsimp only
                  cases openContext preferences inner (context :: outer)
                    (progress.accept preferences token) <;> rfl
      · rfl

/-! ## Trees of calls -/

theorem runContext_of_length_le {nested : κ → Progress → ScanStep} {context : κ} {fuel : Nat}
    {progress : Progress} (ended : source.length ≤ progress.offset) :
    family.runContext preferences source nested context fuel progress = (progress, .done ()) := by
  cases fuel with
  | zero => rfl
  | succ fuel => rw [runContext_succ, move_of_length_le ended]

/-- As for the machine, fuel for the bytes that are left is enough. -/
theorem runContext_eq_of_enough {nested : κ → Progress → ScanStep}
    (forward : ∀ inner progress, progress.offset ≤ (nested inner progress).1.offset)
    {context : κ} {fuel enough : Nat} {progress : Progress}
    (left : source.length - progress.offset ≤ fuel)
    (right : source.length - progress.offset ≤ enough) :
    family.runContext preferences source nested context fuel progress =
      family.runContext preferences source nested context enough progress := by
  induction fuel generalizing enough progress with
  | zero => rw [runContext_of_length_le (by omega), runContext_of_length_le (by omega)]
  | succ fuel ih =>
      cases enough with
      | zero => rw [runContext_of_length_le (by omega), runContext_of_length_le (by omega)]
      | succ enough =>
          rw [runContext_succ, runContext_succ]
          cases moved : family.move preferences source context progress with
          | halt verdict => rfl
          | close reached => rfl
          | stay reached =>
              have advanced := offset_lt_of_move (congrArg Move.reached? moved)
              exact ih (by omega) (by omega)
          | enter inner reached =>
              have advanced := offset_lt_of_move (congrArg Move.reached? moved)
              have entered := forward inner reached
              dsimp only
              generalize nested inner reached = step at entered ⊢
              obtain ⟨behind, verdict⟩ := step
              cases verdict with
              | failed error => rfl
              | fault cause => rfl
              | done value =>
                  dsimp only at entered ⊢
                  exact ih (by omega) (by omega)

section

variable (family preferences source)

/-- The value of a task at a depth. -/
def taskValue : Task κ → Nat → Progress → ScanStep
  | .call context, depth, progress =>
      family.scanContext preferences source (maxContextDepth + 1 - depth) context progress
  | .loop context, depth, progress =>
      family.runContext preferences source
        (family.scanContext preferences source (maxContextDepth - depth)) context
        (source.length - progress.offset) progress

end

theorem taskValue_call_of_lt {context : κ} {depth : Nat} (progress : Progress)
    (excess : maxContextDepth < depth) (next : depth ≤ maxContextDepth + 1) :
    family.taskValue preferences source (.call context) depth progress =
      (progress, .failed (.contextTooDeep depth progress.offset)) := by
  have last : depth = maxContextDepth + 1 := by omega
  rw [taskValue, last, Nat.sub_self]
  rfl

theorem taskValue_call_of_le {context : κ} {depth : Nat} (progress : Progress)
    (within : depth ≤ maxContextDepth) :
    family.taskValue preferences source (.call context) depth progress =
      match family.taskValue preferences source (.loop context) depth
          (progress.enter preferences (family.name context) depth) with
      | (behind, .done ()) =>
          (behind.leave preferences (family.name context) depth, .done ())
      | stopped => stopped := by
  have levels : maxContextDepth + 1 - depth = maxContextDepth - depth + 1 := by omega
  have place : maxContextDepth - (maxContextDepth - depth) = depth := by omega
  rw [taskValue, levels, scanContext, place]
  simp only [taskValue]
  generalize family.runContext preferences source _ context _ _ = step
  obtain ⟨behind, verdict⟩ := step
  cases verdict <;> rfl

theorem taskValue_loop (context : κ) (depth : Nat) (progress : Progress) :
    family.taskValue preferences source (.loop context) depth progress =
      match family.move preferences source context progress with
      | .halt verdict => (progress, verdict)
      | .close reached => (reached, .done ())
      | .stay reached => family.taskValue preferences source (.loop context) depth reached
      | .enter inner reached =>
          match family.taskValue preferences source (.call inner) (depth + 1) reached with
          | (behind, .done ()) =>
              family.taskValue preferences source (.loop context) depth behind
          | stopped => stopped := by
  have forward := offset_le_scanContext family preferences source (maxContextDepth - depth)
  have levels : maxContextDepth + 1 - (depth + 1) = maxContextDepth - depth := by omega
  simp only [taskValue, levels]
  rw [runContext_eq_of_enough forward (Nat.le_refl _) (Nat.le_succ _), runContext_succ]
  cases moved : family.move preferences source context progress with
  | halt verdict => rfl
  | close reached => rfl
  | stay reached =>
      have advanced := offset_lt_of_move (congrArg Move.reached? moved)
      exact runContext_eq_of_enough forward (by omega) (Nat.le_refl _)
  | enter inner reached =>
      have advanced := offset_lt_of_move (congrArg Move.reached? moved)
      have entered := forward inner reached
      dsimp only
      generalize family.scanContext preferences source (maxContextDepth - depth) inner reached =
        step at entered ⊢
      obtain ⟨behind, verdict⟩ := step
      cases verdict with
      | failed error => rfl
      | fault cause => rfl
      | done value =>
          dsimp only at entered ⊢
          exact runContext_eq_of_enough forward (by omega) (Nat.le_refl _)

/-- The depths at which a task is taken up: a context may be called for where there is no room for
it, but it is open only where there is. -/
def Task.deepest : Task κ → Nat
  | call _ => maxContextDepth + 1
  | loop _ => maxContextDepth

theorem Returns.eq_taskValue {task : Task κ} {depth : Nat} {progress : Progress}
    {step : ScanStep} (returns : family.Returns preferences source task depth progress step)
    (within : depth ≤ task.deepest) :
    step = family.taskValue preferences source task depth progress := by
  induction returns with
  | tooDeep excess => exact (taskValue_call_of_lt _ excess within).symm
  | left room _ ih => rw [taskValue_call_of_le _ room, ← ih room]
  | cutOff room _ stopped ih =>
      rw [taskValue_call_of_le _ room, ← ih room]
      split
      · next same => cases same; exact absurd rfl stopped
      · rfl
  | halted moved => rw [taskValue_loop, moved]
  | closed moved => rw [taskValue_loop, moved]
  | stayed moved _ ih => rw [taskValue_loop, moved]; exact ih within
  | resumed moved _ _ callIH loopIH =>
      rw [taskValue_loop, moved]
      dsimp only
      rw [← callIH (Nat.succ_le_succ within)]
      exact loopIH within
  | unwound moved _ stopped ih =>
      rw [taskValue_loop, moved]
      dsimp only
      rw [← ih (Nat.succ_le_succ within)]
      split
      · next same => cases same; exact absurd rfl stopped
      · rfl

theorem returns_loop {context : κ} {depth : Nat}
    (calls : ∀ inner reached, family.Returns preferences source (.call inner) (depth + 1) reached
      (family.taskValue preferences source (.call inner) (depth + 1) reached))
    (progress : Progress) :
    family.Returns preferences source (.loop context) depth progress
      (family.taskValue preferences source (.loop context) depth progress) := by
  -- every token that is taken leaves fewer bytes of the source
  induction left : source.length - progress.offset using Nat.strongRecOn
    generalizing progress with
  | ind bytes ih =>
      rw [taskValue_loop]
      cases moved : family.move preferences source context progress with
      | halt verdict => exact .halted moved
      | close reached => exact .closed moved
      | stay reached =>
          have advanced := offset_lt_of_move (congrArg Move.reached? moved)
          exact .stayed moved (ih _ (by omega) reached rfl)
      | enter inner reached =>
          have advanced := offset_lt_of_move (congrArg Move.reached? moved)
          have returned := calls inner reached
          have entered : reached.offset ≤
              (family.taskValue preferences source (.call inner) (depth + 1) reached).1.offset :=
            offset_le_scanContext family preferences source _ inner reached
          dsimp only
          generalize family.taskValue preferences source (.call inner) (depth + 1) reached =
            step at entered returned ⊢
          obtain ⟨behind, verdict⟩ := step
          cases verdict with
          | failed error => exact .unwound moved returned nofun
          | fault cause => exact .unwound moved returned nofun
          | done value =>
              dsimp only at entered
              exact .resumed moved returned (ih _ (by omega) behind rfl)

theorem returns_call {levels depth : Nat} (deep : depth + levels = maxContextDepth + 1)
    (context : κ) (progress : Progress) :
    family.Returns preferences source (.call context) depth progress
      (family.taskValue preferences source (.call context) depth progress) := by
  induction levels generalizing depth context progress with
  | zero =>
      rw [taskValue_call_of_lt progress (by omega) (by omega)]
      exact .tooDeep (by omega)
  | succ levels ih =>
      have room : depth ≤ maxContextDepth := by omega
      have ran : family.Returns preferences source (.loop context) depth
          (progress.enter preferences (family.name context) depth) _ :=
        returns_loop (ih (show depth + 1 + levels = maxContextDepth + 1 by omega)) _
      rw [taskValue_call_of_le progress room]
      generalize family.taskValue preferences source (.loop context) depth
        (progress.enter preferences (family.name context) depth) = step at ran ⊢
      obtain ⟨behind, verdict⟩ := step
      cases verdict with
      | failed error => exact .cutOff room ran nofun
      | fault cause => exact .cutOff room ran nofun
      | done value => exact .left room ran

/-- A call for the outermost context returns, and only what the recursive scan computes. -/
theorem returns_call_iff {context : κ} {progress : Progress} {step : ScanStep} :
    family.Returns preferences source (.call context) 1 progress step ↔
      step = family.scanContext preferences source maxContextDepth context progress := by
  constructor
  · intro returns
    exact returns.eq_taskValue (show 1 ≤ maxContextDepth + 1 by decide)
  · rintro rfl
    exact returns_call (Nat.add_comm 1 maxContextDepth) context progress

/-! ## Turns of the machine -/

theorem turn_of_length_le {opened : List κ} {progress : Progress}
    (ended : source.length ≤ progress.offset) :
    family.turn preferences source opened progress = .inr (progress, .done ()) := by
  cases opened with
  | nil => rfl
  | cons context outer => rw [turn, move_of_length_le ended]

theorem offset_lt_of_turn {opened next : List κ} {progress reached : Progress}
    (turned : family.turn preferences source opened progress = .inl (next, reached)) :
    progress.offset < source.length ∧ progress.offset < reached.offset := by
  cases opened with
  | nil => cases turned
  | cons context outer =>
      rw [turn] at turned
      cases moved : family.move preferences source context progress with
      | halt verdict => simp [moved] at turned
      | close behind =>
          simp only [moved, Sum.inl.injEq, Prod.mk.injEq] at turned
          exact offset_lt_of_move (by rw [moved, ← turned.2]; rfl)
      | stay behind =>
          simp only [moved, Sum.inl.injEq, Prod.mk.injEq] at turned
          exact offset_lt_of_move (by rw [moved, ← turned.2]; rfl)
      | enter inner behind =>
          simp only [moved] at turned
          have advanced := offset_lt_of_move (congrArg Move.reached? moved)
          split at turned
          · next entered opening =>
              cases turned
              obtain ⟨-, -, same, -⟩ := openContext_eq_ok opening
              rw [same]
              exact advanced
          · cases turned

theorem halts_runMachine {fuel : Nat} {opened : List κ} {progress : Progress}
    (enough : source.length - progress.offset ≤ fuel) :
    ∃ turns ≤ source.length - progress.offset,
      family.Halts preferences source turns (opened, progress)
        (family.runMachine preferences source fuel opened progress) := by
  induction fuel generalizing opened progress with
  | zero => exact ⟨0, Nat.zero_le _, .now (turn_of_length_le (by omega))⟩
  | succ fuel ih =>
      rw [runMachine_succ]
      cases turned : family.turn preferences source opened progress with
      | inr step => exact ⟨0, Nat.zero_le _, .now turned⟩
      | inl state =>
          obtain ⟨next, reached⟩ := state
          have advanced := offset_lt_of_turn turned
          obtain ⟨turns, few, halts⟩ := ih (show source.length - reached.offset ≤ fuel by omega)
          exact ⟨turns + 1, by omega, .later turned halts⟩

theorem Halts.unique {state : List κ × Progress} {few many : Nat} {left right : ScanStep}
    (first : family.Halts preferences source few state left)
    (second : family.Halts preferences source many state right) : few = many ∧ left = right := by
  induction first generalizing many with
  | now turned =>
      cases second with
      | now other =>
          cases turned.symm.trans other
          exact ⟨rfl, rfl⟩
      | later other _ => cases turned.symm.trans other
  | later turned _ ih =>
      cases second with
      | now other => cases turned.symm.trans other
      | later other rest =>
          cases turned.symm.trans other
          obtain ⟨rfl, rfl⟩ := ih rest
          exact ⟨rfl, rfl⟩

/-! ## The same results -/

theorem halts_machine_iff {root : κ} {offset : Nat} {state : List κ × Progress}
    (opening : openContext preferences root [] { offset := offset, events := #[] } = .ok state) :
    ∃ turns ≤ source.length - offset, ∀ count step,
      family.Halts preferences source count state step ↔
        count = turns ∧ step = family.machine preferences source root offset := by
  obtain ⟨opened, entered⟩ := state
  obtain ⟨-, -, same, -⟩ := openContext_eq_ok opening
  have left : source.length - entered.offset = source.length - offset := by rw [same]
  rw [machine, opening]
  obtain ⟨turns, few, halts⟩ := halts_runMachine (Nat.le_of_eq left)
  rw [left] at few
  refine ⟨turns, few, ?_⟩
  intro count step
  constructor
  · intro other
    exact other.unique halts
  · rintro ⟨rfl, rfl⟩
    exact halts

/-- The recursion into contexts refines the machine with its list of open contexts, for every
family of contexts. A call for the outermost context has a finite tree of calls, whose result is
that of the recursive scan; the machine halts after at most as many turns as there are bytes from
the offset on; and both come to the same verdict with the same cursor, tokens and statistics.
These are also the tokens that a whole scan puts at the back of a stream. -/
theorem scanContext_refines_machine {κ : Type} (family : ContextFamily κ)
    (preferences : ScanPreferences) (root : κ) (source : Source) (offset : Nat)
    (events : Array Event) (stream : TokenStream) :
    let started : Progress := { offset := offset, events := events }
    let result := family.scanContext preferences source maxContextDepth root started
    (∀ step, family.Returns preferences source (.call root) 1 started step ↔ step = result) ∧
      (∃ state, openContext preferences root [] { offset := offset, events := #[] } = .ok state ∧
        ∃ turns ≤ source.length - offset, ∀ count step,
          family.Halts preferences source count state step ↔
            count = turns ∧ step = (result.1.unlogged, result.2)) ∧
      family.machine preferences source root offset = (result.1.unlogged, result.2) ∧
      (source.length ≤ maxSourceLength →
        let scanned := family.scanOnto preferences root source offset stream
        scanned.1.toList = stream.toList ++ result.1.tokens.toList ∧
          scanned.2.metrics = result.1.metrics ∧
          scanned.2.verdict = ScanStep.verdict result) := by
  intro started result
  have same : family.machine preferences source root offset = (result.1.unlogged, result.2) :=
    machine_eq_scanContext family preferences source root rfl
  refine ⟨fun step => returns_call_iff, ?_, same, ?_⟩
  · cases opening : openContext preferences root [] { offset := offset, events := #[] } with
    | error error =>
        obtain ⟨full, -⟩ := openContext_eq_error opening
        cases full
    | ok state =>
        rw [← same]
        exact ⟨state, rfl, halts_machine_iff opening⟩
  · intro short
    obtain ⟨tokens, metrics, verdict⟩ :=
      scanFrom_eq_of_length_le family preferences source short root offset
    rw [same] at tokens metrics verdict
    refine ⟨?_, metrics, ?_⟩
    · rw [scanOnto, TokenStream.toList_append, tokens]
      rfl
    · rw [scanOnto, verdict]
      obtain ⟨reached, outcome⟩ := result
      cases outcome <;> rfl

/-- A context that enters itself again behind every character. -/
def reentrant : TableContext :=
  .table "again" [⟨.ofPattern .characters .any, 0, none⟩] [] [(.characters, 0)]

/-- The recursion of a context that enters itself again ends at the limit on open contexts. -/
theorem refinement_of_reentrant :
    ∃ source : Source, source.text = String.ofList (List.replicate 65 'x') ∧
      source.length ≤ maxSourceLength ∧
      ((TableContext.family [reentrant]).scanOnto {} reentrant source 0 .empty).2.verdict =
        .failed (.contextTooDeep 65 64) ∧
      ∃ behind, behind.tokens.size = 64 ∧
        (TableContext.family [reentrant]).Returns {} source (.call reentrant) 1
          { offset := 0, events := #[] } (behind, .failed (.contextTooDeep 65 64)) := by
  have stopped : ((TableContext.family [reentrant]).scanContext {}
      (.ofString (String.ofList (List.replicate 65 'x'))) maxContextDepth reentrant
      ({ offset := 0, events := #[] } : Progress)).2 = .failed (.contextTooDeep 65 64) := by
    decide +kernel
  have count : ((TableContext.family [reentrant]).scanContext {}
      (.ofString (String.ofList (List.replicate 65 'x'))) maxContextDepth reentrant
      ({ offset := 0, events := #[] } : Progress)).1.tokens.size = 64 := by decide +kernel
  refine ⟨.ofString (String.ofList (List.replicate 65 'x')), rfl, by decide +kernel, ?_⟩
  obtain ⟨returns, -, -, whole⟩ := scanContext_refines_machine (TableContext.family [reentrant])
    {} reentrant (.ofString (String.ofList (List.replicate 65 'x'))) 0 #[] .empty
  obtain ⟨-, -, verdict⟩ := whole (by decide +kernel)
  have returned := (returns _).mpr rfl
  generalize (TableContext.family [reentrant]).scanContext {} _ maxContextDepth reentrant
    (_ : Progress) = result at stopped count returned verdict
  obtain ⟨behind, outcome⟩ := result
  cases stopped
  exact ⟨verdict, behind, count, returned⟩

end ContextFamily

end CssSelector
