import MailSchedule.Settings.Load
import MailSchedule.Store.Basic

/-!
# The disk

What stays between two runs of the program: files, and the tables in the account store among them.

Results:

* `Disk.withStore`: uses the account store that settings name.
-/

namespace MailSchedule

/-- Files below the working directory, and what the account store holds. -/
structure Disk where
  files : FileTree := []
  saved : Store.Tables := {}

/-- Uses the account store that settings name, from the tables that lie there to those that are left
there.  Its directories are made first and its file is created; that stays done also if the store
cannot be opened.  What is left in a store in memory is lost. -/
def Disk.withStore {α : Type} (d : Disk) (settings : Settings)
    (use : Store.Tables → α × Store.Tables) : Except Fault α × Disk :=
  match settings.makeDirectories d.files with
  | (.error f, files) => (.error f, { d with files })
  | (.ok (), files) =>
    match settings.openStore files with
    | (.refused e, files) => (.error e.fault, { d with files })
    | (.memory, files) => (.ok (use {}).1, { d with files })
    | (.file _, files) =>
      let (a, saved) := use d.saved
      (.ok a, { files, saved })

end MailSchedule
