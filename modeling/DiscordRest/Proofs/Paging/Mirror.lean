import DiscordRest.Proofs.Paging.Reports
import DiscordRest.Proofs.Snowflake

/-!
Walks in the opposite direction. The identifiers are turned around, the first with the last, and
with them the directions: a walk before a cursor and a walk after the turned one, from sources that
answer accordingly, go along with each other from poll to poll, whatever the sources answer.
-/

namespace DiscordRest

------------------------------------------------------------------------------------------
-- Turning around
------------------------------------------------------------------------------------------

namespace Snowflake

/-- The identifier that lies as far from the last one as this one from the first. -/
def flip (id : Snowflake) : Snowflake :=
  ⟨~~~id.value⟩

theorem toNat_flip (id : Snowflake) : id.flip.value.toNat = greatestWord - id.value.toNat :=
  UInt64.toNat_not id.value

theorem flip_flip (id : Snowflake) : id.flip.flip = id :=
  congrArg mk UInt64.not_not

/-- The order turns around; what does not move stays so. -/
theorem flip_lt_flip_iff {a b : Snowflake} : a.flip < b.flip ↔ b < a := by
  have belowA := a.toNat_le_greatestWord
  have belowB := b.toNat_le_greatestWord
  rw [lt_iff_toNat_lt, lt_iff_toNat_lt, toNat_flip, toNat_flip]
  omega

end Snowflake

namespace Paging

variable {σ τ ρ : Type}

def Direction.opposite : Direction → Direction
  | after => before
  | before => after

/-- A cursor moves on where the turned one moves on in the opposite direction. -/
theorem Direction.advances_opposite (direction : Direction) (source target : Snowflake)
    : direction.opposite.advances source.flip target.flip = direction.advances source target := by
  cases direction with
  | after => exact decide_eq_decide.mpr Snowflake.flip_lt_flip_iff
  | before => exact decide_eq_decide.mpr Snowflake.flip_lt_flip_iff

/-- The request for the same number of records on the other side of the turned cursor. -/
def PageRequest.mirror (request : PageRequest) : PageRequest :=
  ⟨request.direction.opposite, request.cursor.flip, request.limit⟩

theorem PageRequest.mirror_mirror (request : PageRequest) : request.mirror.mirror = request := by
  obtain ⟨direction, cursor, limit⟩ := request
  cases direction with
  | after => simp only [mirror, Direction.opposite, Snowflake.flip_flip]
  | before => simp only [mirror, Direction.opposite, Snowflake.flip_flip]

def Paginator.mirror (paginator : Paginator) : Paginator :=
  ⟨paginator.direction.opposite, paginator.pageSize, paginator.start.flip⟩

def Progress.mirror (progress : Progress) : Progress :=
  { progress with cursor := progress.cursor.flip }

def Walk.mirror (walk : Walk ρ) : Walk ρ :=
  { walk with paginator := walk.paginator.mirror, progress := walk.progress.mirror }

/-- The same answer to the turned request. -/
def Exchange.mirror (exchange : Exchange ρ) : Exchange ρ :=
  { exchange with request := exchange.request.mirror }

/-- The keys by which the turned cursors move. -/
def flipKey (key : ρ → Snowflake) (record : ρ) : Snowflake :=
  (key record).flip

end Paging

/-- What the opposite walk reports in place of an event. -/
def Log.Event.mirror : Log.Event → Log.Event
  | .pageFetched page records request next =>
    .pageFetched page records request.mirror next.flip
  | .cursorStuck direction source target =>
    .cursorStuck direction.opposite source.flip target.flip
  | .pageFailed request error => .pageFailed request.mirror error
  | event => event

theorem Log.Event.isStuck_mirror (event : Log.Event) : event.mirror.isStuck = event.isStuck := by
  cases event <;> rfl

namespace Paging

variable {σ τ ρ : Type} {key : ρ → Snowflake}

------------------------------------------------------------------------------------------
-- What is reported
------------------------------------------------------------------------------------------

theorem Exchange.warnings_mirror (exchange : Exchange ρ)
    : exchange.mirror.warnings (flipKey key) = (exchange.warnings key).map Log.Event.mirror := by
  rcases Walk.answer_cases exchange.answer with ⟨error, failed⟩ | empty | ⟨page, given⟩
  · simp only [warnings, mirror, failed, List.map_nil]
  · simp only [warnings, mirror, empty, List.getLast?_nil, List.map_nil]
  · have turned : exchange.mirror.answer = page.answer := given
    have same : exchange.mirror.request.direction.advances exchange.mirror.request.cursor
        (page.lastKey (flipKey key))
        = exchange.request.direction.advances exchange.request.cursor (page.lastKey key) :=
      exchange.request.direction.advances_opposite exchange.request.cursor (page.lastKey key)
    rw [warnings_of_page given, warnings_of_page turned]
    by_cases ahead :
      exchange.request.direction.advances exchange.request.cursor (page.lastKey key) = true
    · rw [if_pos ahead, if_pos (same.trans ahead), List.map_nil]
    · rw [if_neg ahead, if_neg (same.trans_ne ahead)]
      rfl

namespace Progress

theorem next_mirror (progress : Progress) (exchange : Exchange ρ)
    : progress.mirror.next (flipKey key) exchange.mirror
      = (progress.next key exchange).mirror := by
  rcases Walk.answer_cases exchange.answer with ⟨error, failed⟩ | empty | ⟨page, given⟩
  · simp only [next, Exchange.mirror, failed]
    rfl
  · simp only [next, Exchange.mirror, empty]
    rfl
  · have turned : exchange.mirror.answer = page.answer := given
    rw [next_of_page progress given, next_of_page progress.mirror turned]
    rfl

theorem report_mirror (progress : Progress) (exchange : Exchange ρ)
    : progress.mirror.report (flipKey key) exchange.mirror
      = (progress.report key exchange).map Log.Event.mirror := by
  rcases Walk.answer_cases exchange.answer with ⟨error, failed⟩ | empty | ⟨page, given⟩
  · simp only [report, Exchange.mirror, failed]
    rfl
  · simp only [report, Exchange.mirror, next, empty]
    rfl
  · have turned : exchange.mirror.answer = page.answer := given
    rw [report_of_page progress given, report_of_page progress.mirror turned,
      Exchange.warnings_mirror, List.map_append]
    rfl

/-- The opposite walk reports the turned events, each at the same exchange. -/
theorem reports_mirror (progress : Progress) (exchanges : List (Exchange ρ))
    : progress.mirror.reports (flipKey key) (exchanges.map Exchange.mirror)
      = (progress.reports key exchanges).map (List.map Log.Event.mirror) := by
  induction exchanges generalizing progress with
  | nil => rfl
  | cons exchange rest ih =>
      simp only [List.map_cons, reports, report_mirror, next_mirror, ih]

end Progress

------------------------------------------------------------------------------------------
-- Sources that answer accordingly
------------------------------------------------------------------------------------------

/--
On related states one source answers the turned requests as another one answers the requests of a
direction, and the answers lead to related states.
-/
def Source.Mirrors (direction : Direction) (related : σ → τ → Prop) (source : Source σ ρ)
    (other : Source τ ρ)
    : Prop :=
  ∀ state otherState request,
    request.direction = direction
    → related state otherState
    → (other otherState request.mirror).answer = (source state request).answer
      ∧ related (source state request).state (other otherState request.mirror).state

/-- The source whose requests are turned before they are answered. -/
def Source.turned (source : Source σ ρ) : Source σ ρ := fun state request =>
  source state request.mirror

theorem Source.mirrors_turned (source : Source σ ρ) (direction : Direction)
    : Source.Mirrors direction Eq source source.turned := by
  rintro state _ request - rfl
  unfold Source.turned
  rw [PageRequest.mirror_mirror]
  exact ⟨rfl, rfl⟩

/-- Related states with turned exchanges. -/
structure Recorded.Mirrors (related : σ → τ → Prop) (recorded : Recorded σ ρ)
    (other : Recorded τ ρ)
    : Prop where
  state : related recorded.state other.state
  exchanges : other.exchanges = recorded.exchanges.map Exchange.mirror

variable {direction : Direction} {related : σ → τ → Prop} {source : Source σ ρ}
variable {other : Source τ ρ}

theorem Source.Mirrors.recorded (mirrors : Source.Mirrors direction related source other)
    : Source.Mirrors direction (Recorded.Mirrors related) source.recorded other.recorded := by
  intro state otherState request asked start
  obtain ⟨answer, next⟩ := mirrors state.state otherState.state request asked start.state
  refine ⟨answer, next, ?_⟩
  simp only [Source.recorded, start.exchanges, answer, List.map_append, List.map_singleton]
  rfl

namespace Walk

theorem open?_mirror {paginator : Paginator} {walk : Walk ρ}
    (opened : open? paginator = .ok walk)
    : open? paginator.mirror = .ok walk.mirror := by
  obtain ⟨positive, rfl⟩ := open?_eq_ok_iff.mp opened
  exact open?_eq_ok_iff.mpr ⟨positive, rfl⟩

/-- A poll of the opposite walk gives the same and leaves the opposite walk, by the kinds of polls. -/
theorem poll_mirror (mirrors : Source.Mirrors direction related source other)
    {state : σ} {otherState : τ} (start : related state otherState) (key : ρ → Snowflake)
    {walk : Walk ρ} (going : walk.paginator.direction = direction)
    : let polled := walk.poll source key state
      let turned := walk.mirror.poll other (flipKey key) otherState
      turned.item = polled.item
      ∧ turned.walk = polled.walk.mirror
      ∧ polled.walk.paginator = walk.paginator
      ∧ related polled.state turned.state := by
  cases pending : walk.pending with
  | cons record rest =>
      have turned : walk.mirror.pending = record :: rest := pending
      rw [poll_of_pending source pending, poll_of_pending other turned]
      exact ⟨rfl, rfl, rfl, start⟩
  | nil =>
      have turned : walk.mirror.pending = [] := pending
      cases done : walk.progress.done with
      | true =>
          rw [poll_of_done source pending done, poll_of_done other turned done]
          exact ⟨rfl, rfl, rfl, start⟩
      | false =>
          obtain ⟨same, next⟩ := mirrors state otherState walk.request going start
          rcases answer_cases (source state walk.request).answer with
            ⟨error, failed⟩ | empty | ⟨page, given⟩
          · rw [poll_of_failure source pending done failed,
              poll_of_failure other turned done (same.trans failed)]
            exact ⟨rfl, rfl, rfl, next⟩
          · rw [poll_of_empty source pending done empty,
              poll_of_empty other turned done (same.trans empty)]
            exact ⟨rfl, rfl, rfl, next⟩
          · rw [poll_of_page source page pending done given,
              poll_of_page other page turned done (same.trans given)]
            exact ⟨rfl, rfl, rfl, next⟩

/-- A run of the opposite walk gives the same, by induction on the number of polls. -/
theorem run_mirror (mirrors : Source.Mirrors direction related source other)
    {state : σ} {otherState : τ} (start : related state otherState) (key : ρ → Snowflake)
    (count : Nat) {walk : Walk ρ} (going : walk.paginator.direction = direction)
    : let run := walk.run source key count state
      let turned := walk.mirror.run other (flipKey key) count otherState
      turned.items = run.items
      ∧ turned.walk = run.walk.mirror
      ∧ related run.state turned.state := by
  induction count generalizing walk state otherState with
  | zero => exact ⟨rfl, rfl, start⟩
  | succ count ih =>
      obtain ⟨item, same, paginator, next⟩ := poll_mirror mirrors start key going
      obtain ⟨items, walks, last⟩ := ih next (paginator ▸ going)
      simp only [run, item, same]
      exact ⟨congrArg _ items, walks, last⟩

/--
The walk from the turned start in the opposite direction, from a source that answers the turned
requests alike, opens too and goes along: after any number of polls it gave the same records,
failures and ends, made the turned requests, and reported the turned events, each at the same
request. What the sources report themselves stands apart in both logs.
-/
theorem run_goes_along_opposite {paginator : Paginator} {walk : Walk ρ} {origin : σ}
    {otherOrigin : τ} (mirrors : Source.Mirrors paginator.direction related source other)
    (start : related origin otherOrigin) (key : ρ → Snowflake)
    (opened : open? paginator = .ok walk) (polls : Nat)
    : let run := walk.run source.recorded key polls (.fresh origin)
      let turned := walk.mirror.run other.recorded (flipKey key) polls (.fresh otherOrigin)
      let reports := (Progress.startingAt paginator.start).reports key run.state.exchanges
      let turnedReports :=
        (Progress.startingAt paginator.start.flip).reports (flipKey key) turned.state.exchanges
      open? paginator.mirror = .ok walk.mirror
      ∧ turned.items = run.items
      ∧ turned.state.requests = run.state.requests.map PageRequest.mirror
      ∧ turnedReports = reports.map (List.map Log.Event.mirror)
      ∧ turnedReports.map (List.any · Log.Event.isStuck)
        = reports.map (List.any · Log.Event.isStuck)
      ∧ run.events
        = (List.zipWith (· ++ ·) (source.reports origin run.state.requests) reports).flatten
      ∧ turned.events
        = (List.zipWith (· ++ ·) (other.reports otherOrigin turned.state.requests)
          turnedReports).flatten := by
  intro run turned reports turnedReports
  have going : walk.paginator.direction = paginator.direction := by
    rw [(open?_eq_ok_iff.mp opened).2]
  have fresh : Recorded.Mirrors related (.fresh origin : Recorded σ ρ) (.fresh otherOrigin) :=
    ⟨start, rfl⟩
  obtain ⟨items, -, states⟩ := run_mirror mirrors.recorded fresh key polls going
  have requests : turned.state.requests = run.state.requests.map PageRequest.mirror := by
    rw [Recorded.requests, states.exchanges, Recorded.requests, List.map_map, List.map_map]
    rfl
  have reported : turnedReports = reports.map (List.map Log.Event.mirror) := by
    rw [show turnedReports = _ from congrArg _ states.exchanges]
    exact Progress.reports_mirror (.startingAt paginator.start) run.state.exchanges
  refine ⟨open?_mirror opened, items, requests, reported, ?_, ?_, ?_⟩
  · rw [reported, List.map_map]
    refine List.map_congr_left fun events _ => ?_
    simp only [Function.comp_apply, List.any_map, Log.Event.isStuck_mirror, Function.comp_def]
  · exact (run_logged source key origin opened polls).events
  · exact (run_logged other (flipKey key) otherOrigin (open?_mirror opened) polls).events

/-- A walk downward that stays at 9 and is signalled there, and the walk upward that goes along. -/
theorem run_goes_along_opposite_of_script
    : let script := Memory.ofStock
        (.script [.ok [.ofId ⟨4⟩, .ofId ⟨9⟩], .ok [.ofId ⟨9⟩], .error (.status 500 "down")])
      let paginator := (Paginator.before 2).startAt ⟨12⟩
      let walk : Walk Entry := ⟨paginator, .startingAt ⟨12⟩, []⟩
      let turned := walk.mirror.run Memory.fetch.turned.recorded (flipKey Entry.key) 5 (.fresh script)
      paginator.direction = .before
      ∧ open? paginator = .ok walk
      ∧ turned.items = (walk.run Memory.fetch.recorded Entry.key 5 (.fresh script)).items
      ∧ turned.state.requests.map PageRequest.direction = [.after, .after, .after]
      ∧ turned.state.requests.map PageRequest.cursor
        = [⟨18446744073709551603⟩, ⟨18446744073709551606⟩, ⟨18446744073709551606⟩]
      ∧ ((Progress.startingAt paginator.start.flip).reports (flipKey Entry.key)
          turned.state.exchanges).map (List.any · Log.Event.isStuck)
        = [false, true, false] := by
  intro script paginator walk turned
  have opened : open? paginator = .ok walk := rfl
  have mirrors := Memory.fetch.mirrors_turned paginator.direction
  obtain ⟨-, items, requests, -, signals, -⟩ :=
    run_goes_along_opposite mirrors rfl Entry.key opened 5
  refine ⟨rfl, opened, items, ?_, ?_, signals.trans (by decide +kernel)⟩
  · exact (congrArg _ requests).trans (by decide +kernel)
  · exact (congrArg _ requests).trans (by decide +kernel)

end Walk

end Paging

end DiscordRest
