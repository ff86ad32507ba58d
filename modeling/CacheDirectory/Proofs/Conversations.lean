/-
Module: CacheDirectory.Proofs.Conversations
Purpose: One connection to a service in the midst of everything else that happens.
Trusted boundary: none
Main exports: Conversation, Incident, Conversation.run, Conversation.hangUp
-/
import CacheDirectory.Proofs.Runs
import CacheDirectory.Proofs.Streams

namespace CacheDirectory

/-- A service with everything around it, one of its connections, and the replies that
have been written to it. -/
structure Conversation (σ : Type) where
  cluster : Cluster σ
  session : Session := {}
  replies : List Bytes := []

/-- One thing that happens while a connection is open. -/
inductive Incident (σ : Type) where
  /-- Bytes arrive over the connection. -/
  | arrives (bytes : Bytes)
  /-- Anything else happens to the service or around it. -/
  | elsewhere (step : Step σ)

namespace Conversation

variable {σ : Type}

/-- The directory of the service. -/
def directory (conversation : Conversation σ) : Directory :=
  conversation.cluster.directory

/-- The connection is served, and the replies are written. -/
def serve (conversation : Conversation σ) (how : Service σ → Session → Served σ) :
    Conversation σ :=
  let served := how conversation.cluster.service conversation.session
  { cluster := { conversation.cluster with service := served.service }
    session := served.session
    replies := conversation.replies ++ served.replies }

variable [Backing σ]

/-- What happens next. -/
def meet (conversation : Conversation σ) : Incident σ → Conversation σ
  | .arrives bytes => conversation.serve (Session.receive bytes)
  | .elsewhere step => { conversation with cluster := (conversation.cluster.step step).2 }

/-- What happens, one after the other. -/
def run (conversation : Conversation σ) (incidents : List (Incident σ)) : Conversation σ :=
  incidents.foldl meet conversation

/-- The other side closes the connection. -/
def hangUp (conversation : Conversation σ) : Conversation σ :=
  conversation.serve Session.hangUp

theorem run_append (conversation : Conversation σ) (first second : List (Incident σ)) :
    conversation.run (first ++ second) = (conversation.run first).run second :=
  List.foldl_append

/-- Without bytes that arrive, only the rest of the world goes on. -/
theorem run_elsewhere (conversation : Conversation σ) (steps : List (Step σ)) :
    conversation.run (steps.map .elsewhere) =
      { conversation with cluster := (conversation.cluster.run steps).2 } := by
  induction steps generalizing conversation with
  | nil => rfl
  | cons step rest ih => exact ih _

/-- Pieces that arrive one after the other. -/
theorem run_arrives (conversation : Conversation σ) (pieces : List Bytes) :
    conversation.run (pieces.map .arrives) =
      conversation.serve fun service session => session.receiveAll service pieces := by
  induction pieces generalizing conversation with
  | nil => simp [run, serve, Session.receiveAll]
  | cons piece later ih =>
      refine (ih _).trans ?_
      simp only [meet, serve, Session.receiveAll, Served.andThen, List.append_assoc]

end Conversation

end CacheDirectory
