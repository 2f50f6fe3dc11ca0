import CssSelector.Proofs.Log.Capture

/-!
# What events tell

Named values keep the level, the code and the span of an event, and each is found again under its
name. A scope hears no trace messages unless its level is theirs.
-/

set_option autoImplicit false

namespace CssSelector

theorem lookup_cons_if (name value key : String) (rest : Details) :
    List.lookup key ((name, value) :: rest) =
      if key = name then some value else rest.lookup key := by
  rw [List.lookup_cons]
  by_cases same : key = name
  · simp only [same, BEq.rfl, if_true]
  · simp only [beq_false_of_ne same, same, if_false]

theorem Details.lookup_insert (details : Details) (name value key : String) :
    (details.insert name value).lookup key =
      if key = name then some value else details.lookup key := by
  induction details with
  | nil => exact lookup_cons_if name value key []
  | cons detail rest ih =>
      obtain ⟨other, present⟩ := detail
      simp only [insert, lookup_cons_if]
      split
      · next replaced =>
          simp only [lookup_cons_if, ← replaced]
          split <;> rfl
      · next apart =>
          split
          · simp only [lookup_cons_if]
          · simp only [lookup_cons_if, ih]
            split
            · next found =>
                have different : key ≠ name := fun same => apart (same.symm.trans found)
                rw [if_neg different]
            · rfl

namespace Event

/-- An event of a level, with a code and with named values. -/
structure Tells (event : Event) (level : Level) (code : Code) (values : List (String × String)) :
    Prop where
  level : event.level = level
  code : event.code = code
  values : ∀ value ∈ values, event.details.lookup value.1 = some value.2

/-- Named values are all that is added. -/
theorem withDetails_eq (event : Event) (values : List (String × String)) :
    event.withDetails values =
      { event with details :=
          values.foldl (fun details value => details.insert value.1 value.2) event.details } := by
  induction values generalizing event with
  | nil => rfl
  | cons value later ih => exact ih (event.withDetail value.1 value.2)

theorem level_withDetails (event : Event) (values : List (String × String)) :
    (event.withDetails values).level = event.level := by
  rw [withDetails_eq]

theorem code_withDetails (event : Event) (values : List (String × String)) :
    (event.withDetails values).code = event.code := by
  rw [withDetails_eq]

theorem lookup_withDetails_of_not_mem {values : List (String × String)} {name : String}
    (absent : name ∉ values.map (·.1)) (event : Event) :
    (event.withDetails values).details.lookup name = event.details.lookup name := by
  induction values generalizing event with
  | nil => rfl
  | cons value later ih =>
      rw [List.map_cons, List.mem_cons, not_or] at absent
      have rest := ih absent.2 (event.withDetail value.1 value.2)
      rw [withDetail, Details.lookup_insert, if_neg absent.1] at rest
      exact rest

/-- Values with different names are all found under them. -/
theorem tells_withDetails {values : List (String × String)} (distinct : (values.map (·.1)).Nodup)
    (event : Event) : (event.withDetails values).Tells event.level event.code values := by
  refine ⟨event.level_withDetails values, event.code_withDetails values, ?_⟩
  induction values generalizing event with
  | nil =>
      intro value member
      cases member
  | cons first later ih =>
      rw [List.map_cons, List.nodup_cons] at distinct
      intro value member
      rcases List.mem_cons.mp member with same | behind
      · have kept := lookup_withDetails_of_not_mem distinct.1 (event.withDetail first.1 first.2)
        rw [withDetail, Details.lookup_insert, if_pos rfl] at kept
        rw [same]
        exact kept
      · exact ih distinct.2 _ value behind

theorem tells_error (code : Code) (message name value : String) (span : Option Span) :
    (((error code message).withSpan span).withDetail name value).Tells .error code
        [(name, value)] ∧
      (((error code message).withSpan span).withDetail name value).span = span := by
  have told := @tells_withDetails [(name, value)] (List.pairwise_singleton _ _)
    ((error code message).withSpan span)
  cases span with
  | none => exact ⟨told, rfl⟩
  | some span => exact ⟨told, rfl⟩

theorem Tells.stamp {event : Event} {level : Level} {code : Code} {values : List (String × String)}
    (told : event.Tells level code values) (session : Session) :
    (session.stamp event).Tells level code values := ⟨told.level, told.code, told.values⟩

end Event

/-! ## Trace messages -/

/-- Nothing but trace messages. -/
def Traces (events : Array Event) : Prop := ∀ event ∈ events, event.level = .debug

theorem Traces.empty : Traces #[] := by
  intro event member
  cases Array.not_mem_empty event member

theorem Traces.push {events : Array Event} {event : Event} (traces : Traces events)
    (debug : event.level = .debug) : Traces (events.push event) := by
  intro other member
  rcases Array.mem_push.mp member with before | last
  · exact traces other before
  · rw [last]
    exact debug

namespace Session

theorem heard_append (session : Session) (level : Level) (left right : List Event) :
    session.heard level (left ++ right) =
      session.heard level left ++ session.heard level right := by
  simp only [heard, List.filter_append, List.map_append]

theorem heard_cons_of_within {event : Event} {level bound : Level} (told : event.level = level)
    (within : level.within bound = true) (session : Session) (rest : List Event) :
    session.heard bound (event :: rest) = session.stamp event :: session.heard bound rest := by
  rw [heard_cons, told, if_pos within]

theorem heard_cons_of_beyond {event : Event} {level bound : Level} (told : event.level = level)
    (beyond : level.within bound = false) (session : Session) (rest : List Event) :
    session.heard bound (event :: rest) = session.heard bound rest := by
  rw [heard_cons, told, beyond, if_neg Bool.false_ne_true]

theorem heard_of_traces {level : Level} {events : Array Event} (traces : Traces events)
    (unwanted : level ≠ .debug) (session : Session) : session.heard level events.toList = [] := by
  unfold heard
  rw [List.map_eq_nil_iff, List.filter_eq_nil_iff]
  intro event member
  rw [traces event (Array.mem_toList_iff.mp member)]
  cases level with
  | debug => exact absurd rfl unwanted
  | error | warning | info => exact Bool.false_ne_true

end Session

end CssSelector
