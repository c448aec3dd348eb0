/-!
The session table of a channel: what is known about each live session, by rising session id.
-/

namespace SessionMux

structure Session where
  port : UInt16
  /-- The place of the session's endpoint among the channel's endpoints. -/
  endpoint : Nat
  bytesIn : Nat
  bytesOut : Nat
  deriving Repr, DecidableEq, Inhabited

def Session.create (port : UInt16) (endpoint : Nat) : Session :=
  { port, endpoint, bytesIn := 0, bytesOut := 0 }

/-- Live sessions by rising id. -/
structure Sessions where
  entries : List (UInt32 × Session)
  deriving Repr, DecidableEq, Inhabited

namespace Sessions

def empty : Sessions := { entries := [] }

def find? (sessions : Sessions) (id : UInt32) : Option Session := sessions.entries.lookup id

def contains (sessions : Sessions) (id : UInt32) : Bool := (sessions.find? id).isSome

def ids (sessions : Sessions) : List UInt32 := sessions.entries.map (·.1)

def size (sessions : Sessions) : Nat := sessions.entries.length

def insertEntry (id : UInt32) (session : Session) :
    List (UInt32 × Session) → List (UInt32 × Session)
  | [] => [(id, session)]
  | (other, kept) :: rest =>
    if id < other then (id, session) :: (other, kept) :: rest
    else if id = other then (id, session) :: rest
    else (other, kept) :: insertEntry id session rest

def insert (sessions : Sessions) (id : UInt32) (session : Session) : Sessions :=
  { entries := insertEntry id session sessions.entries }

def erase (sessions : Sessions) (id : UInt32) : Sessions :=
  { entries := sessions.entries.filter (·.1 ≠ id) }

end Sessions

end SessionMux
