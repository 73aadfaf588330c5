import PhotoSearch.Time.Timestamp

/-! The order of timestamps, and the earliest and the latest of several. -/

namespace PhotoSearch

/-- Naive and aware timestamps have no order among each other. -/
inductive MixedTimes where
  | naiveWithAware
deriving DecidableEq

def MixedTimes.message : MixedTimes → String
  | naiveWithAware => "can't compare offset-naive and offset-aware datetimes"

namespace Timestamp

/-- Whether both timestamps are by the clocks of one region. -/
def sharesRegion (t u : Timestamp) : Bool :=
  match t.zone, u.zone with
  | some (.region name _), some (.region name' _) => name == name'
  | _, _ => false

theorem sharesRegion_comm (t u : Timestamp) : t.sharesRegion u = u.sharesRegion t := by
  cases zone : t.zone with
  | none => cases zone' : u.zone <;> simp [sharesRegion, zone, zone']
  | some z =>
    cases zone' : u.zone with
    | none => simp [sharesRegion, zone, zone']
    | some z' => cases z <;> cases z' <;> simp [sharesRegion, zone, zone', Bool.beq_comm]

/-- Whether the first is earlier, both being naive or both aware: in one region by wall clock, even
where its clocks were put back in between, and otherwise by instant. -/
def precedes (t u : Timestamp) : Bool :=
  if t.sharesRegion u then decide (t.wall < u.wall) else decide (t.instant < u.instant)

def before (t u : Timestamp) : Except MixedTimes Bool :=
  if t.isNaive = u.isNaive then .ok (t.precedes u) else .error .naiveWithAware

/-- Goes over to each timestamp that comes before the best one so far. -/
def earliest : Timestamp → List Timestamp → Except MixedTimes Timestamp
  | best, [] => .ok best
  | best, t :: rest => do
    if ← t.before best then earliest t rest else earliest best rest

/-- Goes over to each timestamp that the best one so far comes before. -/
def latest : Timestamp → List Timestamp → Except MixedTimes Timestamp
  | best, [] => .ok best
  | best, t :: rest => do
    if ← best.before t then latest t rest else latest best rest

end Timestamp

end PhotoSearch
