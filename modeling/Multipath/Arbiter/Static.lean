import Multipath.Arbiter.Policy

/-!
# Static choice

The policy that gives one answer to every question, sensible or not.
-/

namespace Multipath

/-- A policy with one answer. -/
structure StaticChoice where
  /-- The node to which every packet goes, or `none` for no route. -/
  choice : Option NodeId
  deriving DecidableEq

instance : Policy StaticChoice where
  choose p _ := .ok p.choice
  dump _ node := s!"fixed {node}\n"

end Multipath
