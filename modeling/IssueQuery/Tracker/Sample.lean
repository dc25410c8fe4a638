import IssueQuery.Issue.Basic
import IssueQuery.Fault

namespace IssueQuery.Sample

open Calendar (Timestamp microsPerDay)

def john : User := ⟨"john.doe", "John Doe", some "john.doe@example.com"⟩

def jane : User := ⟨"jane.smith", "Jane Smith", some "jane.smith@example.com"⟩

def alice : User := ⟨"alice.jones", "Alice Jones", some "alice.jones@example.com"⟩

def bob : User := ⟨"bob.wilson", "Bob Wilson", some "bob.wilson@example.com"⟩

def admin : User := ⟨"admin", "System Admin", some "admin@example.com"⟩

def daysAgo (now : Timestamp) (days : Nat) : Outcome Timestamp :=
  ofClock (now.shift (-(days * microsPerDay : Nat)))

def hoursAgo (now : Timestamp) (hours : Nat) : Outcome Timestamp :=
  ofClock (now.shift (-(hours * (microsPerDay / 24) : Nat)))

def paymentBug (created updated : Timestamp) : Issue where
  id := some "1"
  key := "BANK-123"
  summary := "Payment processing bug in checkout flow"
  description := some "Users unable to complete payment in checkout"
  status := "Open"
  priority := "High"
  issueType := "Bug"
  assignee := some john
  reporter := some jane
  project := "BANK"
  created := .single created
  updated := .single updated
  resolutionDate := none
  resolution := none
  labels := ["payment", "urgent"]
  components := ["checkout"]
  fixVersions := ["v2.1.0"]

def dashboardStory (created updated : Timestamp) : Issue where
  id := some "2"
  key := "BANK-124"
  summary := "Implement new user dashboard"
  description := some "Create a new dashboard for user analytics"
  status := "In Progress"
  priority := "Medium"
  issueType := "Story"
  assignee := some alice
  reporter := some bob
  project := "BANK"
  created := .single created
  updated := .single updated
  resolutionDate := none
  resolution := none
  labels := ["dashboard", "analytics"]
  components := ["frontend"]
  fixVersions := ["v2.2.0"]

def migrationTask (created updated : Timestamp) : Issue where
  id := some "3"
  key := "PROJ-456"
  summary := "Database migration task"
  description := some "Migrate legacy data to new schema"
  status := "Done"
  priority := "Low"
  issueType := "Task"
  assignee := some john
  reporter := some admin
  project := "PROJ"
  created := .single created
  updated := .single updated
  resolutionDate := some (.single updated)
  resolution := some "Fixed"
  labels := ["migration", "database"]
  components := ["backend"]
  fixVersions := ["v1.5.0"]

def loginBug (created updated : Timestamp) : Issue where
  id := some "4"
  key := "BANK-125"
  summary := "Fix login timeout issue"
  description := some "Users getting logged out too quickly"
  status := "Open"
  priority := "Medium"
  issueType := "Bug"
  assignee := none
  reporter := some jane
  project := "BANK"
  created := .single created
  updated := .single updated
  resolutionDate := none
  resolution := none
  labels := ["security", "auth"]
  components := ["authentication"]
  fixVersions := ["v2.0.1"]

def issues (now : Timestamp) : Outcome (List Issue) := do
  return [
    paymentBug (← daysAgo now 5) (← daysAgo now 1),
    dashboardStory (← daysAgo now 10) (← daysAgo now 2),
    migrationTask (← daysAgo now 30) (← daysAgo now 7),
    loginBug (← daysAgo now 3) (← hoursAgo now 6)]

end IssueQuery.Sample
