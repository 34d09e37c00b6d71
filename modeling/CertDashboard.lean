import CertDashboard.Redaction
import CertDashboard.Startup
import CertDashboard.Contract.Catalogue
import CertDashboard.Contract.Sample
import CertDashboard.Main
import CertDashboard.Unicode.Composition
import CertDashboard.Unicode.Direction
import CertDashboard.Unicode.Joining
import CertDashboard.Unicode.Unseen
import CertDashboard.Url.Folding
import CertDashboard.Proofs.Json.Reading
import CertDashboard.Proofs.Json.Acceptance
import CertDashboard.Proofs.Json.Values
import CertDashboard.Proofs.Certificate.Acceptance
import CertDashboard.Proofs.Certificate.Encoding
import CertDashboard.Proofs.Api.Acceptance
import CertDashboard.Proofs.Api.Exchange
import CertDashboard.Proofs.Api.Login
import CertDashboard.Proofs.Contract.Rules
import CertDashboard.Proofs.Contract.Spelling
import CertDashboard.Proofs.Contract.Responses
import CertDashboard.Proofs.Contract.Views
import CertDashboard.Proofs.View
import CertDashboard.Proofs.Cookie.Grammar
import CertDashboard.Proofs.Cookie.Jar
import CertDashboard.Proofs.Cookie.Map
import CertDashboard.Proofs.Expiry.Bands
import CertDashboard.Proofs.Expiry.Days
import CertDashboard.Proofs.Expiry.Horizons
import CertDashboard.Proofs.Expiry.Cursors
import CertDashboard.Proofs.Redaction
import CertDashboard.Proofs.Api.Endpoints
import CertDashboard.Proofs.Config.Values
import CertDashboard.Proofs.Config.Environment
import CertDashboard.Proofs.Config.Page
import CertDashboard.Proofs.Session.Reachable
import CertDashboard.Proofs.Session.Quiet
import CertDashboard.Proofs.Session.Aside
import CertDashboard.Proofs.Session.Sound
import CertDashboard.Proofs.Session.Show
import CertDashboard.Proofs.Session.Waiting
import CertDashboard.Proofs.Session.Outcome
import CertDashboard.Proofs.Session.Polling
import CertDashboard.Proofs.Session.Lifecycle
import CertDashboard.Proofs.Session.Dashboards
import CertDashboard.Proofs.Session.Calm
import CertDashboard.Proofs.Session.Deed
import CertDashboard.Proofs.Session.Admission
import CertDashboard.Proofs.Session.History
import CertDashboard.Proofs.Session.Picture
import CertDashboard.Proofs.Session.Concealment
import CertDashboard.Proofs.Session.Twins
import CertDashboard.Proofs.Session.Inventory
import CertDashboard.Proofs.Session.Neutral
import CertDashboard.Proofs.Session.Cookies
import CertDashboard.Proofs.Session.Logout
import CertDashboard.Proofs.Session.Course
import CertDashboard.Proofs.Session.Nested
import CertDashboard.Proofs.Session.Causes
import CertDashboard.Proofs.Session.Warnings
import CertDashboard.Proofs.Session.Rendering
import CertDashboard.Proofs.Session.AuditTrail
import CertDashboard.Proofs.Session.Ready
import CertDashboard.Proofs.Session.FirstPage
import CertDashboard.Proofs.Text.Doubles
import CertDashboard.Proofs.Expiry.Words
import CertDashboard.Proofs.Expiry.Headers
import CertDashboard.Proofs.Config.Printed
import CertDashboard.Proofs.Redaction.Fields
import CertDashboard.Proofs.Color
