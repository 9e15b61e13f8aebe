import Workflow.Graph.Basic

/-!
# Checked graphs at hand

Checking a definition takes time, so the graphs of the latest versions in use are kept. A graph is
kept for a routine and a version. When there are too many the one that was used longest ago goes.
-/

namespace Workflow

/-- A graph kept for a version of a routine. -/
structure KeptGraph where
  routine : String
  version : Int
  graph : Graph

/-- Kept graphs, the one used longest ago first. -/
structure GraphCache where
  limit : Nat
  kept : List KeptGraph := []

namespace GraphCache

/-- The entry is for a version of a routine. -/
def isFor (routine : String) (version : Int) (entry : KeptGraph) : Bool :=
  entry.routine = routine && entry.version = version

/-- The graph kept for a version of a routine. -/
def find? (cache : GraphCache) (routine : String) (version : Int) : Option KeptGraph :=
  cache.kept.find? (isFor routine version)

/-- Count the graph for a version as the one used last. -/
def touch (cache : GraphCache) (routine : String) (version : Int) : GraphCache :=
  let (used, others) := cache.kept.partition (isFor routine version)
  { cache with kept := others ++ used }

/-- Keep one more graph. -/
def keep (cache : GraphCache) (entry : KeptGraph) : GraphCache :=
  let all := cache.kept ++ [entry]
  { cache with kept := all.drop (all.length - cache.limit) }

theorem length_keep_le (cache : GraphCache) (entry : KeptGraph) :
    (cache.keep entry).kept.length ≤ cache.limit := by
  simp [keep]
  omega

end GraphCache

end Workflow
