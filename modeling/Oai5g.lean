import Oai5g.Amf.Security.RoundTrip
import Oai5g.Amf.Guti.Lookup
import Oai5g.Amf.Guti.MobileIdentity
import Oai5g.Amf.N2.Connected
import Oai5g.Amf.N2.Ncc
import Oai5g.Amf.N2.Tables
import Oai5g.Amf.N1.Maps
import Oai5g.Amf.N1.Reactivation
import Oai5g.Upf.Rejected
import Oai5g.Upf.Timers
import Oai5g.Upf.Gtpu
import Oai5g.Upf.Registries
import Oai5g.Upf.Modified
import Oai5g.Nrf.Monitored
import Oai5g.Nrf.Subscription
import Oai5g.Nrf.Contract
import Oai5g.Smf.Leases
import Oai5g.Smf.RuleIds
import Oai5g.Smf.Path
import Oai5g.Smf.StateMachine
import Oai5g.Smf.UpdateAnswers
import Oai5g.Nssf.Selection
import Oai5g.Nssf.Availability
import Oai5g.Ausf.Authentication
import Oai5g.Udm.SequenceNumbers
import Oai5g.Udr.Databases
import Oai5g.Upf.Precedence
import Oai5g.Smf.QosRuleIds
import Oai5g.Smf.Heartbeats
import Oai5g.Upf.Itti
import Oai5g.Udr.SmData
import Oai5g.Pcf.PolicyUpdate
import Oai5g.Lib.Strtoul
import Oai5g.Amf.N2.Setup
import Oai5g.Amf.N1.Slices
import Oai5g.Smf.Rollback
import Oai5g.Upf.PfcpIes
import Oai5g.Upf.PfcpParse
import Oai5g.Upf.PfcpNesting
import Oai5g.Smf.Generators
import Oai5g.Udm.EventExposure
import Oai5g.Smf.SessionAmbr
import Oai5g.Smf.PcoResponse
import Oai5g.Smf.Reassociation
import Oai5g.Upf.Reports
import Oai5g.Upf.Undisturbed
import Oai5g.Pcf.Associations
import Oai5g.Common.MimeParser
