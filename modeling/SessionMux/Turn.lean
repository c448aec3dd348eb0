/-!
Tasks work in sections that nothing interrupts. A turn is one section of a task's work.
-/

namespace SessionMux

inductive Turn (State Result : Type)
  /-- Nothing more to do before something changes. -/
  | waits (next : State)
  /-- One section of the work is done, and the next can begin. -/
  | goes (next : State)
  | ends (result : Result)
  deriving Repr

def Turn.map {State Result State' Result' : Type} (state : State → State')
    (result : Result → Result') : Turn State Result → Turn State' Result'
  | .waits next => .waits (state next)
  | .goes next => .goes (state next)
  | .ends outcome => .ends (result outcome)

end SessionMux
