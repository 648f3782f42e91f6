import AisFeed.Event

/-!
# Sinks

A sink is handed items one at a time. What it does with an item may hang on the items before it.
An item that it refuses is told in an event and lost; after one on which it crashes it is handed
no more and is not flushed.
-/

set_option autoImplicit false

namespace AisFeed

/-- What a sink does with an item. -/
inductive Verdict where
  | kept
  | refused (error : Error)
  | crashed (text : String)
  deriving DecidableEq, Repr

/-- A consumer of items. -/
structure Sink (α : Type) where
  name : String
  /-- What it does with an item, after the items that it was handed before. -/
  accept : List α → α → Verdict
  /-- The error of the flush after the last item, if it fails. -/
  flush : List α → Option Error

/-- What a sink has done with its items. -/
structure SinkRun (α : Type) where
  /-- The items that it was handed. -/
  handed : List α
  /-- Those of them that it kept. -/
  kept : List α
  hasCrashed : Bool
  /-- Whether it was flushed. -/
  isFlushed : Bool
  events : List Event
  deriving DecidableEq, Repr

namespace Sink

variable {α : Type}

/-- A sink that sends its items on to someone, who may be gone. -/
def toChannel (name : String) (isAttended : Bool) : Sink α :=
  { name
    accept := fun _ _ =>
      if isAttended then .kept else .refused (.sink "channel receiver dropped")
    flush := fun _ => none }

/-- A sink that keeps everything. -/
def keeping (name : String) : Sink α :=
  toChannel name true

/-- Why a sink cannot be started, if it cannot: its stage goes by its name. -/
def fault? (s : Sink α) : Option Crash :=
  if s.name.toList.contains '\x00' then some (.nulInName s.name) else none

/-- Hand items to a sink that was handed `before`. -/
def runFrom (s : Sink α) (before : List α) : List α → SinkRun α
  | [] =>
    ⟨[], [], false, true,
      match s.flush before with
      | none => []
      | some error => [.unflushed error s.name]⟩
  | a :: rest =>
    match s.accept before a with
    | .crashed _ => ⟨[a], [], true, false, []⟩
    | .kept =>
      let run := s.runFrom (before ++ [a]) rest
      { run with handed := a :: run.handed, kept := a :: run.kept }
    | .refused error =>
      let run := s.runFrom (before ++ [a]) rest
      { run with handed := a :: run.handed, events := .refused error s.name :: run.events }

/-- Hand items to a sink, and flush it after the last. -/
def run (s : Sink α) (items : List α) : SinkRun α :=
  s.runFrom [] items

/-- Start a sink and hand items to it. -/
def start (s : Sink α) (items : List α) : Except Crash (SinkRun α) :=
  match s.fault? with
  | some crash => .error crash
  | none => .ok (s.run items)

end Sink

end AisFeed
