import PveSanFenced.Library.Collections
import PveSanFenced.Library.Text

/-!
# The issue map of the status tracker

`StatusTracker` keeps one issue per key behind a lock. This module is the
map behind that lock and the three mutations of it; writing the status file
is a separate critical section of the source and not part of this state.
-/

namespace PveSanFenced.Status

open PveSanFenced.Library.Collections
open PveSanFenced.Library.Text

set_option autoImplicit false

/-- Nagios-compatible status levels, in ascending order of severity. -/
inductive StatusLevel where
  | ok
  | warning
  | critical
  deriving DecidableEq, Repr

structure StatusTracker where
  activeIssues : HashMap String (StatusLevel × String)

namespace StatusTracker

def new : StatusTracker where
  activeIssues := ∅

def setIssue (tracker : StatusTracker) (key : String) (level : StatusLevel)
    (message : String) : StatusTracker where
  activeIssues := tracker.activeIssues.insert key (level, message)

def clearIssue (tracker : StatusTracker) (key : String) : StatusTracker where
  activeIssues := tracker.activeIssues.erase key

def clearIssuesWithPrefix (tracker : StatusTracker) (start : String) : StatusTracker where
  activeIssues := retain (fun key => !startsWith key start) tracker.activeIssues

def issue (tracker : StatusTracker) (key : String) : Option (StatusLevel × String) :=
  tracker.activeIssues.lookup key

@[simp] theorem issue_new (key : String) : new.issue key = none := Finmap.lookup_empty key

@[simp] theorem issue_set_issue (tracker : StatusTracker) (key : String) (level : StatusLevel)
    (message : String) : (tracker.setIssue key level message).issue key = some (level, message) :=
  Finmap.lookup_insert _

theorem issue_set_issue_of_ne (tracker : StatusTracker) {key other : String}
    (level : StatusLevel) (message : String) (different : other ≠ key) :
    (tracker.setIssue key level message).issue other = tracker.issue other :=
  Finmap.lookup_insert_of_ne _ different

@[simp] theorem issue_clear_issue (tracker : StatusTracker) (key : String) :
    (tracker.clearIssue key).issue key = none := Finmap.lookup_erase _ _

theorem issue_clear_issue_of_ne (tracker : StatusTracker) {key other : String}
    (different : other ≠ key) : (tracker.clearIssue key).issue other = tracker.issue other :=
  Finmap.lookup_erase_ne different

theorem issue_clear_issues_with_prefix (tracker : StatusTracker) (start key : String) :
    (tracker.clearIssuesWithPrefix start).issue key =
      if startsWith key start then none else tracker.issue key := by
  rw [issue, clearIssuesWithPrefix, lookup_retain]
  cases startsWith key start <;> rfl

end StatusTracker

end PveSanFenced.Status
