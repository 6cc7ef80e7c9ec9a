import DesignBridge.Settings.Bridge
import DesignBridge.Text.Blank

/-! # Settings of the site API

Credentials and addresses for the API of the site, from the environment.
-/

namespace DesignBridge

/-- Credentials and addresses for the API of the site. -/
structure SiteSettings where
  clientId : Option String
  clientSecret : Option String
  siteToken : Option String
  siteId : Option String
  localeId : Option String
  redirectUri : Option String
  apiBaseUrl : String
  authorizeUrl : String
  tokenUrl : String
  scopes : List String
  deriving DecidableEq, Repr

namespace SiteSettings

/-- The site that is used when none is named. -/
def defaultSiteId : String := "689d248bc9c3f34341eb4473"

/-- The locale that is used when none is named. -/
def defaultLocaleId : String := "689d2c3f7b5a91e0b9407739"

def defaultApiBaseUrl : String := "https://api.webflow.com/v2"

/-- The address at which access is asked for. -/
def defaultAuthorizeUrl : String := "https://webflow.com/oauth/authorize"

/-- The address at which a code is exchanged for a token. -/
def defaultTokenUrl : String := "https://api.webflow.com/oauth/access_token"

/-- Takes the settings from the environment. -/
def load (env : Environment) : SiteSettings where
  clientId := env.get? "WEBFLOW_CLIENT_ID"
  clientSecret := env.get? "WEBFLOW_CLIENT_SECRET"
  siteToken := env.get? "WEBFLOW_TOKEN"
  siteId := some (env.getD "WEBFLOW_SITE_ID" defaultSiteId)
  localeId := some (env.getD "WEBFLOW_LOCALE_ID" defaultLocaleId)
  redirectUri := env.get? "WEBFLOW_REDIRECT_URI"
  apiBaseUrl := env.getD "WEBFLOW_API_URL" defaultApiBaseUrl
  authorizeUrl := defaultAuthorizeUrl
  tokenUrl := defaultTokenUrl
  scopes := Text.words (env.getD "WEBFLOW_SCOPES" "")

/-- Whether a value is given and not empty. -/
def isGiven (value : Option String) : Bool :=
  value.any (· ≠ "")

/-- The variables of the credentials that are not given. -/
def missingCredentials (settings : SiteSettings) : List String :=
  (if isGiven settings.clientId then [] else ["WEBFLOW_CLIENT_ID"]) ++
    (if isGiven settings.clientSecret then [] else ["WEBFLOW_CLIENT_SECRET"])

def hasCredentials (settings : SiteSettings) : Bool :=
  settings.missingCredentials.isEmpty

def hasSiteToken (settings : SiteSettings) : Bool :=
  isGiven settings.siteToken

end SiteSettings

end DesignBridge
