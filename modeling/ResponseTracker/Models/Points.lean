import ResponseTracker.Foundation.UserDefaults

/-!
# Points

The four totals. They are integers here; sums of counts and grants leave the
range of a 64-bit integer only where the program's additions would trap.
-/

namespace ResponseTracker

/-- `Points`: the totals of the year, the month, the previous month and of all time. -/
@[ext]
structure Points where
  currentYear : Int := 0
  currentMonth : Int := 0
  previousMonth : Int := 0
  all : Int := 0
deriving DecidableEq

namespace Points

/-- `increaseCurrent(by:)` over the integers. The previous month's total stays.
With the traps of its additions it is `increaseCurrent?`. -/
def increaseCurrent (self : Points) (points : Int) : Points :=
  { self with
    all := self.all + points
    currentMonth := self.currentMonth + points
    currentYear := self.currentYear + points }

/-- `clearPoints()` of the figures shown. -/
def clearPoints (_self : Points) : Points :=
  { all := 0, currentYear := 0, currentMonth := 0, previousMonth := 0 }

end Points
end ResponseTracker
