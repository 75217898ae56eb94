import AccessProbe.Main
import AccessProbe.Proofs.Http.Trail
import AccessProbe.Proofs.Plan
import AccessProbe.Proofs.Authentication
import AccessProbe.Proofs.Endpoint
import AccessProbe.Proofs.Attempt
import AccessProbe.Proofs.TokenRun
import AccessProbe.Proofs.SessionRun
import AccessProbe.Proofs.VerificationRun
import AccessProbe.Proofs.RequestGroups
import AccessProbe.Proofs.Configuration
import AccessProbe.Proofs.Http.Likeness
import AccessProbe.Proofs.PlanLikeness
import AccessProbe.Proofs.Endings
import AccessProbe.Proofs.LimitedReport
import AccessProbe.Proofs.Http.Secrecy
import AccessProbe.Proofs.PasswordSecrecy
import AccessProbe.Proofs.StepSequence
import AccessProbe.Proofs.VerificationLevels
import AccessProbe.Proofs.Http.Headers
import AccessProbe.Proofs.Http.Carried
import AccessProbe.Proofs.SentRequests
import AccessProbe.Proofs.HeaderPrecedence
import AccessProbe.Proofs.CredentialReach
import AccessProbe.Proofs.Http.Statuses
import AccessProbe.Proofs.StatusIndependence
import AccessProbe.Proofs.EndpointPath
import AccessProbe.Proofs.Http.Jar
import AccessProbe.Proofs.SessionCookies
import AccessProbe.Proofs.ConfigurationLayers
import AccessProbe.Proofs.StepLevels
import AccessProbe.Proofs.CommandLine.Precedence
import AccessProbe.Proofs.SettingSources
import AccessProbe.Proofs.Validation
import AccessProbe.Proofs.Domain.Ascii
import AccessProbe.Proofs.ErrorLine
import AccessProbe.Proofs.RequestLog
import AccessProbe.Proofs.TokenReport
import AccessProbe.Proofs.TokenWarning
import AccessProbe.Proofs.PostedCredentials
import AccessProbe.Proofs.TargetText
import AccessProbe.Proofs.Text.Base64
import AccessProbe.Proofs.Token
import AccessProbe.Proofs.EndpointAddress
import AccessProbe.Proofs.SecretKind
import AccessProbe.Proofs.HeaderFile
