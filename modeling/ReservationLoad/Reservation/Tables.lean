import ReservationLoad.Reservation.Basic

/-!
# Reference tables

The sample data from which reservations are put together: guests, rooms,
dates, and a fourth group with everything else.  The four groups are drawn
from independently, so any guest may meet any room, date and price.
-/

namespace ReservationLoad

structure GuestRow where
  name : String
  email : String
  phone : String
deriving DecidableEq

structure RoomRow where
  number : UInt32
  roomType : String
  guests : UInt32
deriving DecidableEq

structure DateRow where
  checkIn : Calendar.Date
  checkOut : Calendar.Date
deriving DecidableEq

/-- Length of stay, price, payment and the remaining details. -/
structure TermsRow where
  nights : UInt32
  pricePerNight : Binary64
  totalPrice : Binary64
  paymentMethod : String
  paid : Bool
  status : Status
  specialRequest : String
  timestamp : Int64
deriving DecidableEq

/-- The four groups of sample rows. -/
structure Tables where
  guests : List GuestRow
  rooms : List RoomRow
  dates : List DateRow
  terms : List TermsRow
deriving DecidableEq

namespace Tables

def guestNames : List String :=
  ["Juan García", "Ana López", "Pedro Ruiz", "María Fernández", "Luis Gómez",
    "Carmen Díaz", "José Martínez", "Laura Sánchez", "Miguel Torres", "Paula Romero",
    "Javier Navarro", "Lucía Moreno", "Carlos Jiménez", "Elena Álvarez", "Antonio Muñoz",
    "Isabel Castro", "Francisco Ortiz", "Marta Rubio", "David Molina", "Sara Delgado",
    "Manuel Serrano", "Cristina Morales", "Alberto Ramos", "Raquel Gil", "Sergio Vázquez",
    "Patricia Blanco", "Jorge Suárez", "Beatriz Méndez", "Rubén Iglesias", "Silvia Cortés",
    "Óscar Herrera", "Nuria Prieto", "Andrés Medina", "Rosa Vidal", "Pablo Campos"]

/-- The guest with a given place in the list: the place numbers the mail
address and ends the telephone number. -/
def guestRow (place : Nat) (name : String) : GuestRow where
  name := name
  email := String.ofList ("user".toList ++ Decimal.ofNat place ++ "@example.com".toList)
  phone := String.ofList ("+346123456".toList ++ Decimal.padLeft 2 (Decimal.ofNat place))

/-- The kinds of rooms with the number of guests each holds. -/
def roomKinds : List (String × UInt32) :=
  [("Doble", 2), ("Individual", 1), ("Suite", 2), ("Triple", 3), ("Deluxe", 2),
    ("Familiar", 4), ("Economy", 1), ("Superior", 2), ("Premium", 2), ("Estándar", 2)]

def roomsPerFloor : Nat := 7

/-- The rooms are numbered floor by floor, and their kinds repeat. -/
def roomRow (place : Nat) : RoomRow :=
  let kind := roomKinds.getD (place % roomKinds.length) ("", 0)
  { number := UInt32.ofNat ((place / roomsPerFloor + 1) * 100 + place % roomsPerFloor + 1)
    roomType := kind.1
    guests := kind.2 }

/-- The check-in date of the first row. -/
def firstCheckIn : Calendar.Date := ⟨2026, 2, 15, by decide⟩

/-- Every stay begins on a day and ends on the next. -/
def dateRow (checkIn : Calendar.Date) : DateRow := ⟨checkIn, checkIn.next⟩

/-- One cycle of terms: nights, nightly rate, payment, whether it is paid,
status and special request. -/
structure Terms where
  nights : Nat
  rate : Nat
  paymentMethod : String
  paid : Bool
  status : Status
  specialRequest : String

def termsCycle : List Terms :=
  [⟨1, 100, "credit_card", true, .confirmed, "Late check-in"⟩,
    ⟨2, 120, "cash", false, .pending, "Early check-out"⟩,
    ⟨3, 150, "paypal", true, .cancelled, "Extra bed"⟩,
    ⟨4, 200, "bank_transfer", true, .confirmed, "Sea view"⟩,
    ⟨5, 180, "credit_card", false, .pending, "Breakfast included"⟩,
    ⟨2, 130, "cash", true, .confirmed, "No smoking"⟩,
    ⟨3, 160, "paypal", false, .cancelled, "High floor"⟩,
    ⟨1, 140, "credit_card", true, .confirmed, "Quiet room"⟩,
    ⟨4, 170, "cash", true, .pending, "Pet friendly"⟩,
    ⟨2, 190, "paypal", false, .confirmed, "Airport transfer"⟩]

def firstTimestamp : Nat := 1707427200

def timestampStep : Nat := 1000

/-- The nightly rate rises by five with every repetition of the cycle. -/
def termsRow (repetition place : Nat) (terms : Terms) : TermsRow :=
  let pricePerNight := Binary64.ofNat terms.rate + Binary64.ofNat repetition * Binary64.ofNat 5
  { nights := UInt32.ofNat terms.nights
    pricePerNight
    totalPrice := pricePerNight * Binary64.ofNat terms.nights
    paymentMethod := terms.paymentMethod
    paid := terms.paid
    status := terms.status
    specialRequest := terms.specialRequest
    timestamp := Int64.ofNat
      (firstTimestamp + (repetition * termsCycle.length + place) * timestampStep) }

/-- The tables from which every run draws. -/
def standard : Tables where
  guests := guestNames.mapIdx guestRow
  rooms := (List.range 35).map roomRow
  dates := (firstCheckIn.run 90).map dateRow
  terms := (List.range 9).flatMap fun repetition => termsCycle.mapIdx (termsRow repetition)

end Tables

end ReservationLoad
