/-!
# Modes

A run sends its requests to a real target or only pretends to.
-/

namespace ReservationLoad

/-- How the requests are sent. -/
inductive Mode
  | mock
  | http
deriving DecidableEq

namespace Mode

/-- All modes. -/
def all : List Mode := [mock, http]

/-- The word for a mode in arguments and documents. -/
def word : Mode → String
  | mock => "mock"
  | http => "http"

/-- The name of a mode in messages. -/
def title : Mode → String
  | mock => "Mock"
  | http => "Http"

/-- The mode of a word. -/
def ofWord? (text : String) : Option Mode := all.find? fun mode => mode.word = text

end Mode

end ReservationLoad
