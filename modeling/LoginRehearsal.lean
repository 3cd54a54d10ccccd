import LoginRehearsal.Certificate.FileTree
import LoginRehearsal.Json.Reader
import LoginRehearsal.Main
import LoginRehearsal.SignOn.Method
import LoginRehearsal.Proofs.Text.Percent
import LoginRehearsal.Proofs.Text.Form
import LoginRehearsal.Proofs.OAuth1.Parameters
import LoginRehearsal.Proofs.Text.Base64
import LoginRehearsal.Proofs.Text.Numeral
import LoginRehearsal.Proofs.OAuth1.BaseString
import LoginRehearsal.Proofs.OAuth1.Authorization
import LoginRehearsal.Proofs.OAuth1.Signature
import LoginRehearsal.Proofs.OAuth1.Transport
import LoginRehearsal.Proofs.OAuth1.Check
import LoginRehearsal.Proofs.OAuth1.Decision
import LoginRehearsal.Proofs.OAuth1.Answer
import LoginRehearsal.Proofs.OAuth1.Handshake
import LoginRehearsal.Proofs.OAuth1.UnsignedQuery
import LoginRehearsal.Proofs.OAuth1.Placement
import LoginRehearsal.Proofs.OAuth1.Refused
import LoginRehearsal.Proofs.OAuth1.Handling
import LoginRehearsal.Proofs.OAuth1.SiteRun
import LoginRehearsal.Proofs.OAuth1.LoginForm
import LoginRehearsal.Proofs.OAuth1.TemporaryCredentials
import LoginRehearsal.Proofs.OAuth1.History
import LoginRehearsal.Proofs.OAuth1.LoginSignals
import LoginRehearsal.Proofs.OAuth1.TokenAnswer
import LoginRehearsal.Proofs.OAuth1.SecondLogin
import LoginRehearsal.Proofs.SignOn.Call
import LoginRehearsal.Proofs.Recorded
import LoginRehearsal.Proofs.SignOn.Run
import LoginRehearsal.Proofs.SignOn.Session
import LoginRehearsal.Proofs.SignOn.Registry
import LoginRehearsal.Proofs.SignOn.Dictionary
import LoginRehearsal.Proofs.OAuth2.Fragment
import LoginRehearsal.Proofs.OAuth2.Login
import LoginRehearsal.Proofs.HeadRequest
import LoginRehearsal.Proofs.FlagWait
import LoginRehearsal.Proofs.OAuth1.NormalForm
import LoginRehearsal.Proofs.OAuth1.HeaderItems
import LoginRehearsal.Proofs.OAuth1.Realm
import LoginRehearsal.Proofs.OAuth1.HeaderSpelling
import LoginRehearsal.Proofs.OAuth1.HostHeader
import LoginRehearsal.Proofs.LoginPage
import LoginRehearsal.Proofs.OAuth1.Callback
import LoginRehearsal.Proofs.CommandLine.Override
import LoginRehearsal.Proofs.OAuth1.StrictCode
