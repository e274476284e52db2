/-
**The proof digests of a late fill and of a verified no-fill.**

Each digests the identities, the quantities and the observation times of one exact attribution.
-/

import TradingKernel.Domain.Commands
import TradingKernel.Lib.CanonicalJson

namespace TradingKernel

open Text CanonicalJson

/-- What both proofs identify: the Ticket, the ENTRY command and its order, and the two times. -/
structure VacuumAttribution where
  ticketId : String
  entryCommandId : String
  exchangeOrderId : String
  venueClientOrderId : String
  nettingDomainKey : String
  positionObservedAtMs : ℤ
  venueObservedAtMs : ℤ

def VacuumAttribution.fields (proof : VacuumAttribution) : List (String × Canonical) :=
  [("ticket_id", .text proof.ticketId), ("entry_command_id", .text proof.entryCommandId),
    ("exchange_order_id", .text proof.exchangeOrderId),
    ("venue_client_order_id", .text proof.venueClientOrderId),
    ("netting_domain_key", .text proof.nettingDomainKey),
    ("position_observed_at_ms", .integer proof.positionObservedAtMs),
    ("venue_observed_at_ms", .integer proof.venueObservedAtMs)]

def vacuumLateFillProofDigest (proof : VacuumAttribution) (filledQty averageFillPrice : ℚ) :
    String :=
  canonicalDigest (.object (proof.fields ++
    [("filled_qty", .decimal filledQty), ("average_fill_price", .decimal averageFillPrice)]))

def vacuumNoFillProofDigest (proof : VacuumAttribution) : String :=
  canonicalDigest (.object (proof.fields ++ [("filled_qty", .decimal 0)]))

end TradingKernel
