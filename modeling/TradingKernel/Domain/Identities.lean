/-
**Identities: the netting domain, the runtime and the ticket an exposure episode belongs to.**

Every identity text has passed its validator, so it is stripped and not blank
(`Text.NonBlankText`).
-/

import TradingKernel.Lib.Text

namespace TradingKernel

open Text

/-- The side of a position. -/
inductive PositionSide where
  | long
  | short
  deriving DecidableEq, Repr

def PositionSide.value : PositionSide → String
  | .long => "long"
  | .short => "short"

/-- The exchange position bucket that may own at most one active Ticket. -/
structure NettingDomain where
  venueId : NonBlankText
  accountId : NonBlankText
  exchangeInstrumentId : NonBlankText
  positionSide : PositionSide
  deriving DecidableEq, Repr

/-- The `key()` of a netting domain. -/
def NettingDomain.key (domain : NettingDomain) : String :=
  domain.venueId.text ++ ":" ++ domain.accountId.text ++ ":" ++ domain.exchangeInstrumentId.text ++
    ":" ++ domain.positionSide.value

/-- The versioned runtime and strategy frozen into a Ticket. -/
structure RuntimeIdentity where
  runtimeProfileId : NonBlankText
  strategyGroupId : NonBlankText
  strategyVersionId : NonBlankText
  eventSpecId : NonBlankText
  deriving DecidableEq, Repr

/-- The identity shared by every fact, command, event and projection of a Ticket. -/
structure TicketIdentity where
  ticketId : NonBlankText
  exposureEpisodeId : NonBlankText
  signalEventId : NonBlankText
  runtime : RuntimeIdentity
  nettingDomain : NettingDomain
  deriving DecidableEq, Repr

end TradingKernel
