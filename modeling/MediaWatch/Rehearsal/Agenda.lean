import MediaWatch.Number

/-!
# Agendas

An `Agenda` holds what is to happen on a virtual clock, in order of time. Things that are due at the same time happen
in the order in which they were posted (`Agenda.post`), except for those that cannot wait (`Agenda.press`).
-/

namespace MediaWatch.Rehearsal

/-- What is to happen, the earliest first. -/
abbrev Agenda (ι : Type) := List (Number × ι)

namespace Agenda

variable {ι : Type}

/-- Enters something after all that is due no later. -/
def post (at_ : Number) (item : ι) : Agenda ι → Agenda ι
  | [] => [(at_, item)]
  | (t, x) :: rest => if at_ < t then (at_, item) :: (t, x) :: rest else (t, x) :: post at_ item rest

/-- Enters something that is due before all else. -/
def press (now : Number) (item : ι) (a : Agenda ι) : Agenda ι := (now, item) :: a

/-- The entries of a list of due items, in its order. -/
def ofList (items : List (Number × ι)) : Agenda ι := items.foldl (fun a (t, x) => post t x a) []

end Agenda

end MediaWatch.Rehearsal
