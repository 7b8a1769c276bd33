import Mathlib.Data.List.Basic
import DiscordRest.Paging.Memory

/-!
Pages cut from ordered identifiers. A page holds what lies next behind its cursor, so it skips
nothing, and it is empty only where nothing is left.
-/

namespace DiscordRest.Paging

------------------------------------------------------------------------------------------
-- The order of a walk
------------------------------------------------------------------------------------------

namespace Direction

variable {direction : Direction} {a b c : Snowflake}

theorem not_advances_self (direction : Direction) (id : Snowflake)
    : ¬direction.advances id id = true := by
  cases direction <;>
    simp only [advances, decide_eq_true_iff] <;>
    exact UInt64.lt_irrefl id.value

/-- A walk advances by several moves as by one. -/
theorem advances_trans (first : direction.advances a b = true)
    (second : direction.advances b c = true)
    : direction.advances a c = true := by
  cases direction with
  | after =>
      simp only [advances, decide_eq_true_iff] at *
      exact UInt64.lt_trans first second
  | before =>
      simp only [advances, decide_eq_true_iff] at *
      exact UInt64.lt_trans second first

/-- A walk does not advance back to where it came from. -/
theorem not_advances_of_advances (forth : direction.advances a b = true)
    : ¬direction.advances b a = true :=
  fun back => not_advances_self direction a (advances_trans forth back)

/-- What lies behind a cursor comes after what does not. -/
theorem advances_of_not_advances (notBehind : ¬direction.advances b a = true)
    (behind : direction.advances b c = true)
    : direction.advances a c = true := by
  cases direction with
  | after =>
      simp only [advances, decide_eq_true_iff] at *
      exact UInt64.lt_of_le_of_lt (UInt64.not_lt.mp notBehind) behind
  | before =>
      simp only [advances, decide_eq_true_iff] at *
      exact UInt64.lt_of_lt_of_le behind (UInt64.not_lt.mp notBehind)

/-- Identifiers in ascending order, put in the order of a walk. -/
def arrange (direction : Direction) (ids : List Snowflake) : List Snowflake :=
  match direction with
  | .after => ids
  | .before => ids.reverse

/-- The order of a walk keeps the identifiers. -/
@[simp] theorem mem_arrange {ids : List Snowflake} {id : Snowflake}
    : id ∈ direction.arrange ids ↔ id ∈ ids := by
  cases direction with
  | after => exact Iff.rfl
  | before => exact List.mem_reverse

/-- Ascending identifiers advance in the order of a walk. -/
theorem pairwise_arrange (direction : Direction) {ids : List Snowflake}
    (ascending : ids.Pairwise (· < ·))
    : (direction.arrange ids).Pairwise fun a b => direction.advances a b = true := by
  cases direction with
  | after => simpa [arrange, advances] using ascending
  | before => simpa [arrange, advances, List.pairwise_reverse] using ascending

end Direction

------------------------------------------------------------------------------------------
-- Pages
------------------------------------------------------------------------------------------

/-- A page is cut from what lies behind the cursor, in the order of the walk. -/
theorem servePage_eq (ids : List Snowflake) (request : PageRequest)
    : servePage ids request
      = ((request.direction.arrange ids).filter (request.direction.advances request.cursor)).take
          request.limit.toNat := by
  obtain ⟨direction, cursor, limit⟩ := request
  cases direction <;> rfl

variable {ids : List Snowflake} {request : PageRequest} {id : Snowflake}

/-- A page holds identifiers of its data behind its cursor. -/
theorem mem_of_mem_servePage (member : id ∈ servePage ids request)
    : id ∈ ids ∧ request.direction.advances request.cursor id = true := by
  rw [servePage_eq] at member
  obtain ⟨arranged, behind⟩ := List.mem_filter.mp (List.mem_of_mem_take member)
  exact ⟨Direction.mem_arrange.mp arranged, behind⟩

/-- A page advances from each identifier to the next. -/
theorem pairwise_servePage (ascending : ids.Pairwise (· < ·)) (request : PageRequest)
    : (servePage ids request).Pairwise fun a b => request.direction.advances a b = true := by
  rw [servePage_eq]
  exact ((Direction.pairwise_arrange _ ascending).sublist List.filter_sublist).sublist
    (List.take_sublist ..)

/-- A page skips nothing: what lies behind its cursor and not behind its last one is on it. -/
theorem mem_servePage_of_not_advances (ascending : ids.Pairwise (· < ·)) (member : id ∈ ids)
    (behind : request.direction.advances request.cursor id = true) {last : Snowflake}
    (lastMember : last ∈ servePage ids request)
    (notBehind : ¬request.direction.advances last id = true)
    : id ∈ servePage ids request := by
  rw [servePage_eq] at *
  have left : id ∈ (request.direction.arrange ids).filter
      (request.direction.advances request.cursor) :=
    List.mem_filter.mpr ⟨Direction.mem_arrange.mpr member, behind⟩
  have ordered := (Direction.pairwise_arrange request.direction ascending).sublist
    (List.filter_sublist (p := request.direction.advances request.cursor))
  -- What the page leaves out comes after all that is on it.
  rw [← List.take_append_drop request.limit.toNat
    ((request.direction.arrange ids).filter _)] at left ordered
  rcases List.mem_append.mp left with onPage | leftOut
  · exact onPage
  · exact absurd ((List.pairwise_append.mp ordered).2.2 last lastMember id leftOut) notBehind

/-- A page is empty only if nothing lies behind its cursor. -/
theorem not_advances_of_servePage_eq_nil (positive : request.limit ≠ 0)
    (empty : servePage ids request = []) (member : id ∈ ids)
    : ¬request.direction.advances request.cursor id = true := by
  intro behind
  rw [servePage_eq, List.take_eq_nil_iff] at empty
  rcases empty with none_wanted | none_left
  · exact positive (UInt32.toNat_inj.mp none_wanted)
  · exact List.filter_eq_nil_iff.mp none_left id (Direction.mem_arrange.mpr member) behind

end DiscordRest.Paging
