import Skyuv.Client.Completion
import Skyuv.Client.Registry
import Skyuv.Lib.Trace

/-!
# The ids of client connections

Ids are handed out in order: the next connection gets the number after the last
id that a connect has returned, and only a successful connect moves that number
on.  So a live connection either carries the next number and is still dialing, or
carries a number that was returned, and no two live connections share one.  A
close is answered 0 exactly for the numbers that were returned, and from then on
no live connection has the number.
-/

set_option autoImplicit false

namespace Skyuv.Client

open TransitionSystem
open Socket (uvEof uvEinval uvEnomem uvEcanceled)

/-! ## What is true of every registry -/

/-- The id that a successful connect has returned. -/
def Slip.issued (slip : Slip) : Option Int :=
  if slip.call.connects && slip.answers = [0] then some slip.id else none

/-- The calls that find a connection by its id, closes apart. -/
def Call.names (id : Int) : Call → Bool
  | send target _ | recv target _ | shutdown target _ _ | ready target => target = id
  | connect _ _ | close _ => false

/-- What a close of `id` should return when the ids in `issued` have been returned. -/
def closeResult (issued : List Int) (env : Env) (id : Int) : Int :=
  if id ≤ 0 then uvEbadf
  else if env.submit ≠ 0 then env.submit
  else if id ∈ issued then 0
  else uvEbadf

namespace Registry

variable (registry : Registry)

def issued : List Int := registry.slips.filterMap Slip.issued

/-- The call of a request. -/
def callOf (request : Nat) : Option Call := registry.slips[request]?.map Slip.call

/-- The calls that a connection was made for and works for. -/
structure Traced (badge : Badge) : Prop where
  made : ∃ port timeout, registry.callOf badge.creator = some (.connect port timeout)
  writing : ∀ request, badge.writing = some request →
    ∃ size, registry.callOf request = some (.send badge.id size)
  shutting : ∀ request, badge.shutting = some request →
    ∃ read, registry.callOf request = some (.shutdown badge.id read true)

/-- Which number a live connection carries, and which close it may wait for. -/
structure Carries (badge : Badge) : Prop extends registry.Traced badge where
  number : badge.request = some badge.creator ∧ badge.id = registry.nextId + 1 ∨
    badge.request ≠ some badge.creator ∧ 0 < badge.id ∧ badge.id ≤ registry.nextId
  closing : ∀ request, badge.request = some request → request ≠ badge.creator →
    registry.callOf request = some (.close badge.id)

structure Numbered : Prop where
  results : ∀ slip ∈ registry.slips, slip.result = 0
  nonneg : 0 ≤ registry.nextId
  issued : registry.issued =
    (List.range registry.nextId.toNat).map fun count : Nat => (count : Int) + 1
  badges : ∀ (key : Nat) badge, registry.badges[key]? = some badge → badge.live = true →
    registry.Carries badge
  unique : ∀ (key other : Nat) badge found, registry.badges[key]? = some badge →
    registry.badges[other]? = some found → badge.live = true → found.live = true →
    badge.id = found.id → key = other
  closed : ∀ slip ∈ registry.slips, ∀ id, slip.call = .close id → slip.answers = [0] →
    (0 < id ∧ id ≤ registry.nextId) ∧ registry.Absent id

variable {registry}
variable {next : Registry} {label : Label} {key : Nat} {badge after : Badge}

theorem Numbered.start : ({} : Runtime).registry.Numbered where
  results := by simp [Runtime.registry]
  nonneg := Int.le_refl 0
  issued := rfl
  badges := by simp [Runtime.registry]
  unique := by simp [Runtime.registry]
  closed := by simp [Runtime.registry]

theorem Numbered.mem_issued (numbered : registry.Numbered) {id : Int} :
    id ∈ registry.issued ↔ 0 < id ∧ id ≤ registry.nextId := by
  have nonneg := numbered.nonneg
  rw [numbered.issued, List.mem_map]
  constructor
  · rintro ⟨count, member, rfl⟩
    rw [List.mem_range] at member
    omega
  · rintro ⟨positive, bound⟩
    exact ⟨(id - 1).toNat, by rw [List.mem_range]; omega, by omega⟩

/-! ### One step -/

/-- Either the old badge at another place, or the new one. -/
theorem of_set {badges : List Badge} {other : Nat} {found : Badge}
    (get : (badges.set key after)[other]? = some found) :
    other ≠ key ∧ badges[other]? = some found ∨ other = key ∧ found = after := by
  by_cases same : other = key
  · subst same
    rw [List.getElem?_set_self'] at get
    simp only [Option.map_eq_map, Option.map_eq_some_iff, Function.const_apply] at get
    obtain ⟨-, -, rfl⟩ := get
    exact .inr ⟨rfl, rfl⟩
  · rw [List.getElem?_set_ne (Ne.symm same)] at get
    exact .inl ⟨same, get⟩

/-- Where a live connection of the next registry comes from. -/
theorem Step.origin (step : registry.Step label next) (found : next.badges[key]? = some after)
    (live : after.live = true) :
    (∃ before, registry.badges[key]? = some before ∧ before.live = true ∧ before.id = after.id) ∨
      registry.Idle ∧ key = registry.badges.length ∧ after.id = registry.nextId + 1 := by
  have kept : ∀ {place : Nat} {before badge : Badge}, registry.badges[place]? = some before →
      before.live = true → badge.id = before.id →
      (registry.badges.set place badge)[key]? = some after →
      ∃ before, registry.badges[key]? = some before ∧ before.live = true ∧
        before.id = after.id := by
    intro place before badge get alive same set
    obtain ⟨-, get'⟩ | ⟨rfl, rfl⟩ := of_set set
    · exact ⟨after, get', live, rfl⟩
    · exact ⟨before, get, alive, same.symm⟩
  cases step with
  | answered | kept => exact .inl ⟨after, found, live, rfl⟩
  | launched idle =>
      obtain get | ⟨place, rfl⟩ := Trace.concat_entry found
      · exact .inl ⟨after, get, live, rfl⟩
      · exact .inr ⟨idle, place, rfl⟩
  | closing _ finds | writing _ finds | shutting _ finds | unshut _ finds =>
      exact .inl (kept finds.found finds.live (by rfl) found)
  | granted awaits | failed _ awaits | closed _ awaits | written awaits | shut awaits =>
      exact .inl (kept awaits.found awaits.live (by rfl) found)

/-- Calls are never forgotten. -/
theorem Step.callOf (step : registry.Step label next) {request : Nat} {call : Call}
    (known : registry.callOf request = some call) : next.callOf request = some call := by
  have appended : ∀ slip : Slip,
      (registry.slips ++ [slip])[request]?.map Slip.call = some call := by
    intro slip
    obtain ⟨value, get, -⟩ := Option.map_eq_some_iff.mp known
    rw [List.getElem?_append_left (List.getElem?_eq_some_iff.mp get).1]
    exact known
  have amended : ∀ {earlier : List Slip} {slip : Slip}, registry.slips = earlier ++ [slip] →
      ∀ told : Slip, told.call = slip.call →
        (earlier ++ [told])[request]?.map Slip.call = some call := by
    intro earlier slip slips told same
    have shown : (earlier ++ [told]).map Slip.call = registry.slips.map Slip.call := by
      rw [slips, List.map_append, List.map_append, List.map_singleton, List.map_singleton, same]
    rw [← List.getElem?_map, shown, List.getElem?_map]
    exact known
  cases step with
  | answered => exact appended _
  | launched => exact appended _
  | closing => exact appended _
  | writing => exact appended _
  | shutting => exact appended _
  | unshut => exact appended _
  | kept => exact known
  | granted awaits => exact amended awaits.slips _ rfl
  | failed _ awaits => exact amended awaits.slips _ rfl
  | closed _ awaits => exact amended awaits.slips _ rfl
  | written awaits => exact amended awaits.slips _ rfl
  | shut awaits => exact amended awaits.slips _ rfl

theorem callOf_last {badges : List Badge} {slips : List Slip} {slip : Slip} {nextId : Int} :
    callOf ⟨badges, slips ++ [slip], nextId⟩ slips.length = some slip.call := by
  simp [Registry.callOf]

theorem Traced.step (traced : registry.Traced badge) (step : registry.Step label next) :
    next.Traced badge where
  made := by
    obtain ⟨port, timeout, known⟩ := traced.made
    exact ⟨port, timeout, step.callOf known⟩
  writing := by
    intro request held
    obtain ⟨size, known⟩ := traced.writing request held
    exact ⟨size, step.callOf known⟩
  shutting := by
    intro request held
    obtain ⟨read, known⟩ := traced.shutting request held
    exact ⟨read, step.callOf known⟩

/-- A connection that the step does not concern. -/
theorem Carries.step (carries : registry.Carries badge) (step : registry.Step label next)
    (nextId : next.nextId = registry.nextId) : next.Carries badge where
  toTraced := carries.toTraced.step step
  number := nextId ▸ carries.number
  closing := fun request held other => step.callOf (carries.closing request held other)

/-- A step that leaves the counter alone and changes at most the badge at `key`. -/
theorem Numbered.carries_set (numbered : registry.Numbered) (step : registry.Step label next)
    (badges : next.badges = registry.badges.set key after)
    (nextId : next.nextId = registry.nextId) (carries : after.live = true → next.Carries after)
    {other : Nat} {found : Badge} (get : next.badges[other]? = some found)
    (live : found.live = true) : next.Carries found := by
  rw [badges] at get
  obtain ⟨-, get⟩ | ⟨-, rfl⟩ := of_set get
  · exact (numbered.badges other found get live).step step nextId
  · exact carries live

/-- A connection that no connect waits for has a number that was returned. -/
theorem Carries.of_quiet (carries : registry.Carries badge) (quiet : badge.request = none) :
    0 < badge.id ∧ badge.id ≤ registry.nextId := by
  rcases carries.number with ⟨held, -⟩ | ⟨-, bounds⟩
  · simp [quiet] at held
  · exact bounds

theorem Carries.of_dialing (carries : registry.Carries badge)
    (held : badge.request = some badge.creator) : badge.id = registry.nextId + 1 := by
  rcases carries.number with ⟨-, number⟩ | ⟨other, -⟩
  · exact number
  · exact absurd held other

theorem Numbered.badges_step (numbered : registry.Numbered) (step : registry.Step label next)
    {other : Nat} {found : Badge} (get : next.badges[other]? = some found)
    (live : found.live = true) : next.Carries found := by
  have whole := step
  cases step with
  | answered | kept => exact (numbered.badges other found get live).step whole rfl
  | launched idle =>
      obtain get | ⟨-, rfl⟩ := Trace.concat_entry get
      · exact (numbered.badges other found get live).step whole rfl
      · exact ⟨⟨⟨_, _, callOf_last⟩, by simp, by simp⟩, .inl ⟨rfl, rfl⟩,
          fun request held other => absurd (Option.some.inj held).symm other⟩
  | closing idle finds =>
      have carried := (numbered.badges _ _ finds.found finds.live).step whole rfl
      have quiet := idle.request _ _ finds.found finds.live
      have earlier := idle.creator _ _ finds.found finds.live
      refine numbered.carries_set whole rfl rfl (fun _ =>
        ⟨⟨carried.made, carried.writing, carried.shutting⟩,
          .inr ⟨by simp; omega, carried.of_quiet quiet⟩, ?_⟩) get live
      intro request held _
      obtain rfl := Option.some.inj held
      obtain ⟨-, -, rfl⟩ := finds
      exact callOf_last
  | writing idle finds =>
      have carried := (numbered.badges _ _ finds.found finds.live).step whole rfl
      refine numbered.carries_set whole rfl rfl (fun _ =>
        ⟨⟨carried.made, ?_, carried.shutting⟩, carried.number, carried.closing⟩) get live
      intro request held
      obtain rfl := Option.some.inj held
      obtain ⟨-, -, rfl⟩ := finds
      exact ⟨_, callOf_last⟩
  | shutting idle finds =>
      have carried := (numbered.badges _ _ finds.found finds.live).step whole rfl
      refine numbered.carries_set whole rfl rfl (fun _ =>
        ⟨⟨carried.made, carried.writing, ?_⟩, carried.number, carried.closing⟩) get live
      intro request held
      obtain rfl := Option.some.inj held
      obtain ⟨-, -, rfl⟩ := finds
      exact ⟨_, callOf_last⟩
  | unshut idle finds =>
      have carried := (numbered.badges _ _ finds.found finds.live).step whole rfl
      exact numbered.carries_set whole rfl rfl (fun _ =>
        ⟨⟨carried.made, carried.writing, carried.shutting⟩, carried.number, carried.closing⟩)
        get live
  | granted awaits held own connects =>
      have carried := numbered.badges _ _ awaits.found awaits.live
      have moved := carried.of_dialing (held.trans (congrArg some own.symm))
      have nonneg := numbered.nonneg
      obtain ⟨distinct, get⟩ | ⟨-, rfl⟩ := of_set get
      · -- the others wait for nothing, so their numbers stay below the new one
        have quiet := awaits.others other found distinct get live
        have older := numbered.badges other found get live
        have bounds := older.of_quiet quiet
        exact ⟨older.toTraced.step whole, .inr ⟨by simp [quiet], bounds.1, by simp only; omega⟩,
          by simp [quiet]⟩
      · have traced := carried.toTraced.step whole
        exact ⟨⟨traced.made, traced.writing, traced.shutting⟩,
          .inr ⟨by simp, by simp only; omega, Int.le_refl _⟩, by simp⟩
  | failed | closed =>
      exact numbered.carries_set whole rfl rfl (fun dead => absurd dead (by simp)) get live
  | written awaits =>
      have carried := (numbered.badges _ _ awaits.found awaits.live).step whole rfl
      exact numbered.carries_set whole rfl rfl (fun _ =>
        ⟨⟨carried.made, by simp, carried.shutting⟩, carried.number, carried.closing⟩) get live
  | shut awaits =>
      have carried := (numbered.badges _ _ awaits.found awaits.live).step whole rfl
      exact numbered.carries_set whole rfl rfl (fun _ =>
        ⟨⟨carried.made, carried.writing, by simp⟩, carried.number, carried.closing⟩) get live

theorem Numbered.unique_step (numbered : registry.Numbered) (step : registry.Step label next)
    {key other : Nat} {badge found : Badge} (get : next.badges[key]? = some badge)
    (get' : next.badges[other]? = some found) (live : badge.live = true)
    (live' : found.live = true) (same : badge.id = found.id) : key = other := by
  -- the new connection has a number that no other has been given yet
  have fresh : ∀ (place : Nat) before, registry.badges[place]? = some before →
      before.live = true → registry.Idle → before.id ≠ registry.nextId + 1 := by
    intro place before get live idle clash
    have bounds :=
      (numbered.badges place before get live).of_quiet (idle.request place before get live)
    omega
  obtain ⟨before, old, alive, id⟩ | ⟨idle, place, id⟩ := step.origin get live
  · obtain ⟨before', old', alive', id'⟩ | ⟨idle, -, id'⟩ := step.origin get' live'
    · exact numbered.unique key other before before' old old' alive alive'
        (id.trans (same.trans id'.symm))
    · exact absurd (id.trans (same.trans id')) (fresh key before old alive idle)
  · obtain ⟨before', old', alive', id'⟩ | ⟨-, place', -⟩ := step.origin get' live'
    · exact absurd (id'.trans (same.symm.trans id)) (fresh other before' old' alive' idle)
    · exact place.trans place'.symm

/-! ### The answers -/

/-- An answer that says nothing false about ids. -/
structure Honest (registry : Registry) (call : Call) (result : Int) : Prop where
  failed : call.connects = true → result ≠ 0
  closed : ∀ id, call = .close id → result = 0 →
    (0 < id ∧ id ≤ registry.nextId) ∧ registry.Absent id

/-- What becomes of the slips: a new one, an answer on the last, or an id with it. -/
inductive Told (registry next : Registry) : Prop where
  | kept (slips : next.slips = registry.slips) (nextId : next.nextId = registry.nextId)
  | opened (call : Call) (slips : next.slips = registry.slips ++ [{ call := call }])
      (nextId : next.nextId = registry.nextId)
  | replied (call : Call) (result : Int)
      (slips : next.slips = registry.slips ++ [{ call := call, answers := [result] }])
      (nextId : next.nextId = registry.nextId) (honest : registry.Honest call result)
  | answered (earlier : List Slip) (slip : Slip) (result : Int)
      (slips : registry.slips = earlier ++ [slip]) (unanswered : slip.answers = [])
      (told : next.slips = earlier ++ [{ slip with answers := [result] }])
      (nextId : next.nextId = registry.nextId) (honest : next.Honest slip.call result)
      (closed : ∀ id, slip.call = .close id → result = 0)
  | granted (earlier : List Slip) (slip : Slip) (slips : registry.slips = earlier ++ [slip])
      (unanswered : slip.answers = []) (connects : slip.call.connects = true)
      (told : next.slips = earlier ++
        [{ slip with id := registry.nextId + 1, answers := [0] }])
      (nextId : next.nextId = registry.nextId + 1)

theorem Reply.honest {env : Env} {result : Int} {call : Call}
    (reply : registry.Reply env result call) : registry.Honest call result := by
  unfold Reply at reply
  split at reply
  · rename_i rejected
    subst reply
    exact ⟨fun _ => rejected, fun _ _ zero => absurd zero rejected⟩
  · split at reply
    · rename_i failure
      subst reply
      exact ⟨fun _ => failure, fun _ _ zero => absurd zero failure⟩
    · constructor
      · intro connects
        cases call with
        | connect port timeout => exact reply
        | _ => cases connects
      · rintro id rfl rfl
        obtain ⟨absent, value⟩ := reply
        split at value
        · exact ⟨‹_›, absent⟩
        · cases value

/-- The request whose connection is freed is a close of its id. -/
theorem Numbered.close_of_closed (numbered : registry.Numbered) {earlier : List Slip} {slip : Slip}
    (awaits : registry.Awaits key badge earlier slip)
    (held : badge.request = some earlier.length) (other : slip.call.connects = false) :
    slip.call = .close badge.id ∧ 0 < badge.id ∧ badge.id ≤ registry.nextId := by
  have carried := numbered.badges key badge awaits.found awaits.live
  have known : registry.callOf earlier.length = some slip.call := by
    simp [Registry.callOf, awaits.slips]
  have foreign : earlier.length ≠ badge.creator := by
    intro own
    obtain ⟨port, timeout, made⟩ := carried.made
    rw [← own, known] at made
    rw [Option.some.inj made] at other
    cases other
  refine ⟨Option.some.inj (known.symm.trans (carried.closing _ held foreign)), ?_⟩
  rcases carried.number with ⟨dialing, -⟩ | ⟨-, bounds⟩
  · rw [held] at dialing
    exact absurd (Option.some.inj dialing) foreign
  · exact bounds

/-- No live connection is left with the id of a freed one. -/
theorem Numbered.absent_of_freed (numbered : registry.Numbered)
    (found : registry.badges[key]? = some badge) (live : badge.live = true)
    (badges : next.badges = registry.badges.set key { badge with live := false }) :
    next.Absent badge.id := by
  intro other value finds
  have get := finds.found
  rw [badges] at get
  obtain ⟨distinct, get⟩ | ⟨-, rfl⟩ := of_set get
  · exact distinct (numbered.unique other key value badge get found finds.live live finds.same)
  · cases finds.live

theorem Numbered.told (numbered : registry.Numbered) (step : registry.Step label next) :
    registry.Told next := by
  have unset : ∀ {earlier : List Slip} {slip : Slip}, registry.slips = earlier ++ [slip] →
      slip.result = 0 := fun slips => numbered.results _ (by simp [slips])
  have known : ∀ {earlier : List Slip} {slip : Slip}, registry.slips = earlier ++ [slip] →
      registry.callOf earlier.length = some slip.call := by
    intro earlier slip slips
    simp [Registry.callOf, slips]
  cases step with
  | answered idle reply => exact .replied _ _ rfl rfl reply.honest
  | launched => exact .opened _ rfl rfl
  | closing => exact .opened _ rfl rfl
  | writing => exact .opened _ rfl rfl
  | shutting => exact .opened _ rfl rfl
  | unshut => exact .replied _ _ rfl rfl ⟨nofun, nofun⟩
  | kept => exact .kept rfl rfl
  | granted awaits held own connects =>
      have moved := (numbered.badges _ _ awaits.found awaits.live).of_dialing
        (held.trans (congrArg some own.symm))
      refine .granted _ _ awaits.slips awaits.unanswered connects ?_ moved
      rw [moved]
  | failed _ awaits connects failure =>
      refine .answered _ _ _ awaits.slips awaits.unanswered rfl rfl ⟨fun _ => failure, ?_⟩ ?_
      · intro id close
        rw [close] at connects
        cases connects
      · intro id close
        rw [close] at connects
        cases connects
  | @closed key callback badge earlier slip _ awaits held other =>
      obtain ⟨close, bounds⟩ := numbered.close_of_closed awaits held other
      have zero := unset awaits.slips
      refine .answered earlier slip 0 awaits.slips awaits.unanswered ?_ rfl ⟨?_, ?_⟩
        fun _ _ => rfl
      · simp only [zero]
      · simp [other]
      · intro id same _
        cases close.symm.trans same
        exact ⟨bounds, numbered.absent_of_freed awaits.found awaits.live rfl⟩
  | @written key status badge earlier slip awaits held =>
      obtain ⟨size, send⟩ :=
        (numbered.badges _ _ awaits.found awaits.live).writing _ held
      have call := Option.some.inj ((known awaits.slips).symm.trans send)
      have zero := unset awaits.slips
      refine .answered earlier slip status awaits.slips awaits.unanswered ?_ rfl ⟨?_, ?_⟩ ?_
      · simp only [← zero]
      · simp [call, Call.connects]
      · simp [call]
      · simp [call]
  | @shut key status badge earlier slip awaits held =>
      obtain ⟨read, shutdown⟩ :=
        (numbered.badges _ _ awaits.found awaits.live).shutting _ held
      have call := Option.some.inj ((known awaits.slips).symm.trans shutdown)
      have zero := unset awaits.slips
      refine .answered earlier slip status awaits.slips awaits.unanswered ?_ rfl ⟨?_, ?_⟩ ?_
      · simp only [← zero]
      · simp [call, Call.connects]
      · simp [call]
      · simp [call]

/-- The number of a connection that is gone is not given again. -/
theorem Absent.step {id : Int} (absent : registry.Absent id) (bound : id ≤ registry.nextId)
    (step : registry.Step label next) : next.Absent id := by
  intro key badge finds
  obtain ⟨before, found, live, same⟩ | ⟨-, -, number⟩ := step.origin finds.found finds.live
  · exact absent key before ⟨found, live, same.trans finds.same⟩
  · rw [finds.same] at number
    omega

theorem Told.results (told : registry.Told next)
    (results : ∀ slip ∈ registry.slips, slip.result = 0) :
    ∀ slip ∈ next.slips, slip.result = 0 := by
  intro slip member
  cases told with
  | kept slips => exact results slip (slips ▸ member)
  | opened call slips | replied call result slips =>
      rw [slips, List.mem_append, List.mem_singleton] at member
      obtain older | rfl := member
      · exact results slip older
      · rfl
  | answered earlier old result slips _ told | granted earlier old slips _ _ told =>
      rw [told, List.mem_append, List.mem_singleton] at member
      obtain older | rfl := member
      · exact results slip (by simp [slips, older])
      · exact results old (by simp [slips])

theorem issued_concat (slips : List Slip) (slip : Slip) :
    (slips ++ [slip]).filterMap Slip.issued =
      slips.filterMap Slip.issued ++ slip.issued.toList := by
  rw [List.filterMap_append]
  cases issued : slip.issued <;> simp [issued]

/-- A slip shows an id only when a connect has succeeded. -/
theorem issued_none {slip : Slip} (failed : slip.call.connects = true → slip.answers ≠ [0]) :
    slip.issued = none := by
  simpa [Slip.issued] using failed

theorem Told.issued (told : registry.Told next) :
    next.issued = registry.issued ∧ next.nextId = registry.nextId ∨
      next.issued = registry.issued ++ [registry.nextId + 1] ∧
        next.nextId = registry.nextId + 1 := by
  unfold Registry.issued
  cases told with
  | kept slips nextId => exact .inl ⟨by rw [slips], nextId⟩
  | opened call slips nextId =>
      refine .inl ⟨?_, nextId⟩
      rw [slips, issued_concat, issued_none (by simp), Option.toList_none, List.append_nil]
  | replied call result slips nextId honest =>
      refine .inl ⟨?_, nextId⟩
      rw [slips, issued_concat, issued_none (by simpa using honest.failed), Option.toList_none,
        List.append_nil]
  | answered earlier slip result slips unanswered told nextId honest =>
      refine .inl ⟨?_, nextId⟩
      rw [told, slips, issued_concat, issued_concat, issued_none (by simpa using honest.failed),
        issued_none (by simp [unanswered])]
  | granted earlier slip slips unanswered connects told nextId =>
      have pending : slip.issued = none := issued_none (by simp [unanswered])
      refine .inr ⟨?_, nextId⟩
      rw [told, slips, issued_concat, issued_concat, pending]
      simp [Slip.issued, connects]

theorem Numbered.closed_step (numbered : registry.Numbered) (step : registry.Step label next)
    {slip : Slip} (member : slip ∈ next.slips) {id : Int} (close : slip.call = .close id)
    (zero : slip.answers = [0]) : (0 < id ∧ id ≤ next.nextId) ∧ next.Absent id := by
  have told := numbered.told step
  have grown : registry.nextId ≤ next.nextId := by
    rcases told.issued with ⟨-, nextId⟩ | ⟨-, nextId⟩ <;> omega
  have older : slip ∈ registry.slips → (0 < id ∧ id ≤ next.nextId) ∧ next.Absent id := by
    intro member
    obtain ⟨bounds, absent⟩ := numbered.closed slip member id close zero
    exact ⟨⟨bounds.1, Int.le_trans bounds.2 grown⟩, absent.step bounds.2 step⟩
  cases told with
  | kept slips => exact older (slips ▸ member)
  | opened call slips =>
      rw [slips, List.mem_append, List.mem_singleton] at member
      obtain old | rfl := member
      · exact older old
      · cases zero
  | replied call result slips nextId honest =>
      rw [slips, List.mem_append, List.mem_singleton] at member
      obtain old | rfl := member
      · exact older old
      · obtain ⟨bounds, absent⟩ := honest.closed id close (by simpa using zero)
        exact ⟨nextId ▸ bounds, absent.step bounds.2 step⟩
  | answered earlier old result slips _ told _ honest =>
      rw [told, List.mem_append, List.mem_singleton] at member
      obtain known | rfl := member
      · exact older (by simp [slips, known])
      · exact honest.closed id close (by simpa using zero)
  | granted earlier old slips _ connects told =>
      rw [told, List.mem_append, List.mem_singleton] at member
      obtain known | rfl := member
      · exact older (by simp [slips, known])
      · rw [show old.call = .close id from close] at connects
        cases connects

theorem Numbered.step (numbered : registry.Numbered) (step : registry.Step label next) :
    next.Numbered where
  results := (numbered.told step).results numbered.results
  nonneg := by
    have nonneg := numbered.nonneg
    rcases (numbered.told step).issued with ⟨-, nextId⟩ | ⟨-, nextId⟩ <;> omega
  issued := by
    rcases (numbered.told step).issued with ⟨issued, nextId⟩ | ⟨issued, nextId⟩
    · rw [issued, nextId, numbered.issued]
    · have count : (registry.nextId + 1).toNat = registry.nextId.toNat + 1 :=
        Int.toNat_add_nat numbered.nonneg 1
      rw [issued, nextId, count, List.range_succ, List.map_append, numbered.issued]
      simp [Int.toNat_of_nonneg numbered.nonneg]
  badges := fun _ _ => numbered.badges_step step
  unique := fun _ _ _ _ => numbered.unique_step step
  closed := fun _ member _ => numbered.closed_step step member

/-! ### One close -/

/-- The slip is a close of `id` that was answered with `result` or will be. -/
structure Closes (id result : Int) (slip : Slip) : Prop where
  call : slip.call = .close id
  answer : slip.answers = [result] ∨ slip.answers = [] ∧ result = 0

theorem Told.closes (told : registry.Told next) {request : Nat} {slip : Slip} {id result : Int}
    (found : registry.slips[request]? = some slip) (closes : Closes id result slip) :
    ∃ later, next.slips[request]? = some later ∧ Closes id result later := by
  have bound := (List.getElem?_eq_some_iff.mp found).1
  have grown : ∀ added : Slip, (registry.slips ++ [added])[request]? = some slip := by
    intro added
    rw [List.getElem?_append_left bound]
    exact found
  -- the request is an earlier one, or it is the open one
  have place : ∀ {earlier : List Slip} {old : Slip}, registry.slips = earlier ++ [old] →
      ∀ told : Slip, (earlier ++ [told])[request]? = some slip ∨
        slip = old ∧ (earlier ++ [told])[request]? = some told := by
    intro earlier old slips told
    rw [slips] at found bound
    simp only [List.length_append, List.length_singleton] at bound
    rcases Nat.lt_or_ge request earlier.length with inside | last
    · rw [List.getElem?_append_left inside] at found
      exact .inl (by rw [List.getElem?_append_left inside]; exact found)
    · obtain rfl : request = earlier.length := by omega
      exact .inr ⟨by simpa using found.symm, by simp⟩
  cases told with
  | kept slips => exact ⟨slip, slips ▸ found, closes⟩
  | opened call slips => exact ⟨slip, slips ▸ grown _, closes⟩
  | replied call answer slips => exact ⟨slip, slips ▸ grown _, closes⟩
  | answered earlier old answer slips unanswered told nextId honest closed =>
      obtain get | ⟨rfl, get⟩ := place slips { old with answers := [answer] }
      · exact ⟨slip, told ▸ get, closes⟩
      · have zero := closed id closes.call
        rcases closes.answer with done | ⟨-, expected⟩
        · simp [unanswered] at done
        · refine ⟨{ slip with answers := [answer] }, told ▸ get, closes.call, .inl ?_⟩
          rw [zero, expected]
  | granted earlier old slips unanswered connects told =>
      obtain get | ⟨rfl, -⟩ :=
        place slips { old with id := registry.nextId + 1, answers := [0] }
      · exact ⟨slip, told ▸ get, closes⟩
      · simp [closes.call, Call.connects] at connects

theorem Numbered.close_step (numbered : registry.Numbered) {id : Int} {env : Env}
    (step : registry.Step (.call (.close id) env) next) :
    ∃ slip, next.slips[registry.slips.length]? = some slip ∧
      Closes id (closeResult registry.issued env id) slip := by
  cases step with
  | @answered call env result idle reply =>
      refine ⟨_, List.getElem?_concat_length, rfl, .inl ?_⟩
      have told : result = closeResult registry.issued env id := by
        by_cases negative : id ≤ 0
        · have rejected : (Call.close id).rejection env = uvEbadf := if_pos negative
          rw [Reply, rejected, if_pos (by decide)] at reply
          rw [reply, closeResult, if_pos negative]
        · have accepted : (Call.close id).rejection env = 0 := if_neg negative
          rw [Reply, accepted, if_neg (by simp)] at reply
          rw [closeResult, if_neg negative]
          split at reply
          · rename_i failure
            rw [if_pos failure, reply]
          · rename_i submitted
            obtain ⟨-, value⟩ := reply
            simp only [if_neg submitted, value, numbered.mem_issued, gt_iff_lt]
      rw [told]
  | closing idle finds submitted =>
      have carried := numbered.badges _ _ finds.found finds.live
      have bounds := carried.of_quiet (idle.request _ _ finds.found finds.live)
      rw [finds.same] at bounds
      refine ⟨_, List.getElem?_concat_length, rfl, .inr ⟨rfl, ?_⟩⟩
      rw [closeResult, if_neg (by omega), if_neg (by simp [submitted]),
        if_pos (numbered.mem_issued.mpr bounds)]

/-! ### Calls on a closed id -/

/-- Without a live connection the call fails at once. -/
theorem Absent.step_ebadf {call : Call} {env : Env} {id : Int} (absent : registry.Absent id)
    (names : call.names id = true) (reaches : call.Submitted env)
    (step : registry.Step (.call call env) next) :
    next.slips = registry.slips ++ [{ call := call, answers := [uvEbadf] }] := by
  cases step with
  | @answered call env result idle reply =>
      rw [Reply, if_neg (not_not_intro reaches.accepted),
        if_neg (not_not_intro reaches.submitted)] at reply
      have told : result = uvEbadf := by
        cases call with
        | connect port timeout => cases names
        | close target => cases names
        | send target size => exact reply (of_decide_eq_true names ▸ absent)
        | recv target capacity => exact reply (of_decide_eq_true names ▸ absent)
        | shutdown target read write => exact reply.1 (of_decide_eq_true names ▸ absent)
        | ready target => exact reply (of_decide_eq_true names ▸ absent)
      rw [told]
  | launched | closing => cases names
  | writing idle finds | shutting idle finds | unshut idle finds =>
      exact absurd finds (of_decide_eq_true names ▸ absent _ _)

end Registry

/-! ## Runs of the runtime -/

theorem numbered_of_reachable {runtime : Runtime} (reached : clientSystem.Reachable runtime) :
    runtime.registry.Numbered := by
  have both := reached.invariant (fun runtime => runtime.Wf ∧ runtime.registry.Numbered)
    ⟨wf_init, Registry.Numbered.start⟩ fun _ _ _ ⟨wf, numbered⟩ run =>
      ⟨wf.step run, numbered.step (wf.registry_step run)⟩
  exact both.2

namespace Runtime

variable {runtime next final : Runtime}

/-- The ids that successful connects have returned, in the order of the calls. -/
def issued (runtime : Runtime) : List Int :=
  runtime.requests.filterMap fun record =>
    if record.connects && record.answers = [0] then some record.id else none

theorem registry_issued : runtime.registry.issued = runtime.issued := by
  rw [Registry.issued, Runtime.registry, List.filterMap_map, issued]
  refine congrArg (List.filterMap · runtime.requests) (funext fun record => ?_)
  rw [Function.comp_apply, Slip.issued, Request.connects_eq]
  rfl

theorem registry_slips_length : runtime.registry.slips.length = runtime.requests.length :=
  List.length_map ..

theorem of_registry_slip {request : Nat} {slip : Slip}
    (found : runtime.registry.slips[request]? = some slip) :
    ∃ record, runtime.requests[request]? = some record ∧ record.slip = slip := by
  simpa [Runtime.registry] using found

end Runtime

section Runs

variable {runtime next final : Runtime} {id : Int} {env : Env}

/-- A close keeps its answer, or waits for 0, whatever else happens. -/
theorem close_run (reached : clientSystem.Reachable runtime) {labels : List Label}
    (run : clientSystem.step runtime (.call (.close id) env) = some next)
    (rest : clientSystem.exec next labels = some final) :
    ∃ slip, final.registry.slips[runtime.requests.length]? = some slip ∧
      Registry.Closes id (closeResult runtime.issued env id) slip := by
  have start :=
    (numbered_of_reachable reached).close_step ((wf_of_reachable reached).registry_step run)
  rw [Runtime.registry_issued, Runtime.registry_slips_length] at start
  have onward := reached.next run
  have kept := System.exec_invariant (fun state => clientSystem.Reachable state ∧
    ∃ slip, state.registry.slips[runtime.requests.length]? = some slip ∧
      Registry.Closes id (closeResult runtime.issued env id) slip)
    (by
      rintro state label after ⟨reached, slip, found, closes⟩ step
      have told := (numbered_of_reachable reached).told
        ((wf_of_reachable reached).registry_step step)
      exact ⟨reached.next step, told.closes found closes⟩)
    ⟨onward, start⟩ rest
  exact kept.2

theorem call_after_close (reached : clientSystem.Reachable runtime) {record : Request}
    (member : record ∈ runtime.requests) (close : record.call = .close id)
    (zero : record.answers = [0]) {call : Call} (names : call.names id = true)
    (reaches : call.Submitted env)
    (run : clientSystem.step runtime (.call call env) = some next) :
    ∃ record, next.requests[runtime.requests.length]? = some record ∧
      record.call = call ∧ record.answers = [uvEbadf] := by
  have slip : record.slip ∈ runtime.registry.slips := List.mem_map_of_mem member
  obtain ⟨-, absent⟩ :=
    (numbered_of_reachable reached).closed record.slip slip id close zero
  have told := absent.step_ebadf names reaches ((wf_of_reachable reached).registry_step run)
  have last : next.registry.slips[runtime.requests.length]? =
      some { call := call, answers := [uvEbadf] } := by
    rw [told, ← Runtime.registry_slips_length]
    exact List.getElem?_concat_length
  obtain ⟨record, get, same⟩ := Runtime.of_registry_slip last
  exact ⟨record, get, congrArg Slip.call same, congrArg Slip.answers same⟩

end Runs

/-- For every reachable state: the ids that connects have returned are positive and
increase; a close returns what `closeResult` says; and once a close of an id has
returned 0, the calls on the id that reach the I/O thread fail with `UV_EBADF`. -/
theorem client_ids {runtime : Runtime} (reached : clientSystem.Reachable runtime) :
    (∀ id ∈ runtime.issued, 0 < id) ∧ runtime.issued.Pairwise (· < ·) ∧
      (∀ id env next labels final,
        clientSystem.step runtime (.call (.close id) env) = some next →
        clientSystem.exec next labels = some final →
        ∃ record, final.requests[runtime.requests.length]? = some record ∧
          record.call = .close id ∧
          (record.answers = [closeResult runtime.issued env id] ∨
            record.answers = [] ∧ final.WillAnswer runtime.requests.length)) ∧
      ∀ id, (∃ record ∈ runtime.requests, record.call = .close id ∧ record.answers = [0]) →
        ∀ (call : Call) env next, call.names id = true → call.Submitted env →
          clientSystem.step runtime (.call call env) = some next →
          ∃ record, next.requests[runtime.requests.length]? = some record ∧
            record.call = call ∧ record.answers = [uvEbadf] := by
  have numbered := numbered_of_reachable reached
  refine ⟨?_, ?_, ?_, ?_⟩
  · intro id member
    rw [← Runtime.registry_issued] at member
    exact (numbered.mem_issued.mp member).1
  · rw [← Runtime.registry_issued, numbered.issued, List.pairwise_map]
    exact List.pairwise_lt_range.imp fun less => by omega
  · intro id env next labels final run rest
    have wf := wf_of_reachable ((reached.next run).steps rest)
    obtain ⟨slip, found, closes⟩ := close_run reached run rest
    obtain ⟨record, get, rfl⟩ := Runtime.of_registry_slip found
    refine ⟨record, get, closes.call, ?_⟩
    rcases closes.answer with done | ⟨pending, -⟩
    · exact .inl done
    · rcases wf.settled_or_willAnswer get with ⟨result, answers, -⟩ | waiting
      · exact absurd (answers.symm.trans pending) (by simp)
      · exact .inr waiting
  · rintro id ⟨record, member, close, zero⟩ call env next names reaches run
    exact call_after_close reached member close zero names reaches run

/-- A connection is made, closed, and its id used again. -/
def closedRun : List Label :=
  [.call (.connect 80 (-1)) {}, .callback 0 (.connected 0 0), .call (.close 1) {},
    .callback 0 .tcpClosed]

def closedState : Runtime := (clientSystem.exec {} closedRun).get (by decide)

def sentState : Runtime :=
  (clientSystem.step closedState (.call (.send 1 1) {})).get (by decide)

theorem client_ids_closed : closedState.issued = [1] ∧ closedState.issued.Pairwise (· < ·) ∧
    ∃ record, sentState.requests[2]? = some record ∧ record.call = .send 1 1 ∧
      record.answers = [uvEbadf] := by
  have reached : clientSystem.Reachable closedState := ⟨closedRun, (Option.some_get _).symm⟩
  obtain ⟨-, sorted, -, after⟩ := client_ids reached
  exact ⟨by decide, sorted, after 1 (by decide) (.send 1 1) {} sentState rfl ⟨rfl, rfl⟩
    (Option.some_get _).symm⟩

/-- A close that cannot be handed to the I/O thread. -/
def unsubmittedState : Runtime :=
  (clientSystem.exec {} [.call (.connect 80 (-1)) {}, .callback 0 (.connected 0 0),
    .call (.close 1) { submit := uvEnomem }]).get (by decide)

/-- A close of an id that is given out only later. -/
def earlyState : Runtime :=
  (clientSystem.exec {} [.call (.close 1) {}, .call (.connect 80 (-1)) {},
    .callback 0 (.connected 0 0), .call (.ready 1) {}]).get (by decide)

/-- A close of an issued id may return something else than 0, and a close that
returned `UV_EBADF` does not keep a later call on the id from succeeding. -/
theorem close_not_final :
    (unsubmittedState.issued = [1] ∧
      unsubmittedState.requests.map Request.answers = [[0], [uvEnomem]]) ∧
    earlyState.requests.map Request.answers = [[uvEbadf], [0], [0]] := by
  decide

end Skyuv.Client
