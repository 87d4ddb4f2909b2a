import CoinWallet.Simulation.Jobs

set_option autoImplicit false

namespace CoinWallet.Simulation

structure Stage (ν : Type) where
  network : Network ν
  date : Timestamp
  world : World ν
  now : Nat := 0
  jobs : List Job := []

namespace Stage

variable {ν : Type}

def momentLimit : Nat := 1000000

def manager (s : Stage ν) : Manager :=
  s.world.session.manager

def add (s : Stage ν) (job : Job) : Nat × Stage ν :=
  (s.jobs.length, { s with jobs := s.jobs ++ [job] })

def pause (s : Stage ν) (duration : Nat) : Nat × Stage ν :=
  s.add { call := none, pauseUntil := s.now + duration }

def make (s : Stage ν) (demand : Demand) (signer : Option Signer) : Nat × Stage ν :=
  let id := s.world.session.calls.length
  { s with world := { s.world with session := s.world.session.make demand } }.add
    { call := some id, signer := signer }

def act (s : Stage ν) (action : Action) : Stage ν :=
  let session := (s.world.session.act? ⟨s.now, s.date⟩ action).getD s.world.session
  { s with world := { s.world with session := session } }

-- lets time pass until `stop` holds
def run (s : Stage ν) (stop : List Job → Bool) : Stage ν :=
  let (now, jobs, world) :=
    (Job.behavior s.network s.date).run stop momentLimit s.now s.jobs s.world
  { s with now := now, jobs := jobs, world := world }

def settle (s : Stage ν) : Stage ν :=
  s.run fun _ => true

def await (s : Stage ν) (job : Nat) : Stage ν :=
  s.run fun jobs => (jobs[job]?.map (·.isOver)).getD true

def result? (s : Stage ν) (job : Nat) : Option (Outcome ManagerError Call.Result) :=
  s.jobs[job]?.bind fun job => job.result? s.world

def tell (s : Stage ν) (change : ν → ν) : Stage ν :=
  { s with world := { s.world with network := change s.world.network } }

def takeContacts (s : Stage ν) : List Contact × Stage ν :=
  (s.world.contacts.reverse, { s with world := { s.world with contacts := [] } })

end Stage

end CoinWallet.Simulation
